import DotDrawing.Statement.Basic
import Mathlib.Data.List.Forall2
import Mathlib.Data.List.TakeWhile
import Mathlib.Tactic.Lemma

/-!
The grammar of statements.

A run of tokens is made of words and lists with tokens between them that do not count
(`Piece.MadeOf`), and a statement has one of five forms over these pieces (`Statement.Derives`).
Main statement: a run is read as a statement exactly when the grammar derives it, and is rejected
when the grammar derives none (`statement?_read_iff`).
-/

namespace DotDrawing

/-! ### Keywords and free ids -/

/-- The token is the keyword, in whatever letter case and without quotes. -/
def Token.IsKeyword (t : Token) (k : Keyword) : Prop :=
  ∃ name, t = .identifier name ∧ Text.sameWord k.word name

/-- The tokens that can name a node, with the id that they spell. -/
inductive Token.Free : Token → String → Prop
  | identifier {name : String} (h : ∀ k : Keyword, ¬ Text.sameWord k.word name) :
    Free (.identifier name) name
  | numeral (digits : String) : Free (.numeral digits) digits
  | quoted (text : String) : Free (.quoted text) text

lemma Keyword.eq_of_sameWord {j k : Keyword} {name : String} (hj : Text.sameWord j.word name)
    (hk : Text.sameWord k.word name) : j = k := by
  have h : ∀ j k : Keyword, j.word.toList.map Char.toLower = k.word.toList.map Char.toLower →
      j = k := by
    intro j k
    cases j <;> cases k <;> decide
  simp only [Text.sameWord, beq_iff_eq] at hj hk
  exact h j k (hj.trans hk.symm)

lemma Keyword.ofWord?_eq_some_iff {k : Keyword} {name : String} :
    ofWord? name = some k ↔ Text.sameWord k.word name := by
  constructor
  · intro h
    exact List.find?_some (p := fun k : Keyword => Text.sameWord k.word name) h
  · intro h
    cases hf : ofWord? name with
    | none =>
      have hall : k ∈ all := by cases k <;> decide
      exact absurd h (List.find?_eq_none.1 hf k hall)
    | some j =>
      have hj := List.find?_some (p := fun k : Keyword => Text.sameWord k.word name) hf
      rw [eq_of_sameWord hj h]

namespace Token

variable {t : Token} {k : Keyword} {id : String}

lemma keyword?_eq_some_iff : t.keyword? = some k ↔ t.IsKeyword k := by
  unfold keyword?
  split
  · simp [IsKeyword, Keyword.ofWord?_eq_some_iff]
  · next h =>
    constructor
    · intro hk; cases hk
    · rintro ⟨name, rfl, -⟩
      exact absurd rfl (h name)

lemma free_iff : t.Free id ↔ t.keyword? = none ∧ t.id? = some id := by
  constructor
  · rintro (⟨h⟩ | _ | _)
    · refine ⟨?_, rfl⟩
      rw [Option.eq_none_iff_forall_ne_some]
      exact fun k hk => h k (Keyword.ofWord?_eq_some_iff.1 hk)
    · exact ⟨rfl, rfl⟩
    · exact ⟨rfl, rfl⟩
  · rintro ⟨hk, hid⟩
    unfold id? at hid
    split at hid <;> cases hid
    · refine .identifier fun k h => ?_
      have hword : Keyword.ofWord? id = some k := Keyword.ofWord?_eq_some_iff.2 h
      exact Option.some_ne_none k (hword.symm.trans hk)
    · exact .numeral id
    · exact .quoted id

end Token

/-! ### The pieces of a run -/

/-- The run is made of the pieces in their order, with tokens that do not count anywhere between
them. A list goes from a `[` to the next `]`. -/
inductive Piece.MadeOf : List Token → List Piece → Prop
  | nil : MadeOf [] []
  | skip {t : Token} {ts : List Token} {ps : List Piece} (ht : t.isTrivia ∨ t = .rightBrace)
      (h : MadeOf ts ps) : MadeOf (t :: ts) ps
  | word {t : Token} {ts : List Token} {ps : List Piece} (ht : ¬ (t.isTrivia ∨ t = .rightBrace))
      (hb : t ≠ .leftBracket) (h : MadeOf ts ps) : MadeOf (t :: ts) (word t :: ps)
  | list {inside ts : List Token} {ps : List Piece} (hi : .rightBracket ∉ inside)
      (h : MadeOf ts ps) :
      MadeOf (.leftBracket :: (inside ++ .rightBracket :: ts)) (list inside :: ps)
  | unclosed {ts : List Token} (h : .rightBracket ∉ ts) :
      MadeOf (.leftBracket :: ts) [unclosed]

namespace Piece

variable {t : Token} {ts inside : List Token} {ps : List Piece}

lemma isSignificant_iff : isSignificant t ↔ ¬ (t.isTrivia ∨ t = .rightBrace) := by
  simp [isSignificant]

lemma ofTokens_word (h : isSignificant t) (hb : t ≠ .leftBracket) (ts : List Token) :
    ofTokens (t :: ts) = word t :: ofTokens ts := by
  rw [ofTokens, if_neg hb, if_pos h]

lemma ofTokens_skip (h : isSignificant t = false) (ts : List Token) :
    ofTokens (t :: ts) = ofTokens ts := by
  have hb : t ≠ .leftBracket := by rintro rfl; cases h
  rw [ofTokens, if_neg hb, if_neg (by simp [h])]

lemma ofTokens_list (h : .rightBracket ∉ inside) (ts : List Token) :
    ofTokens (.leftBracket :: (inside ++ .rightBracket :: ts)) = list inside :: ofTokens ts := by
  have hall : ∀ t ∈ inside, decide (t ≠ .rightBracket) = true := by
    intro t ht
    exact decide_eq_true fun he => h (he ▸ ht)
  have htake : (inside ++ .rightBracket :: ts).takeWhile (· ≠ Token.rightBracket) = inside := by
    rw [List.takeWhile_append_of_pos hall]
    simp
  have hdrop : (inside ++ .rightBracket :: ts).dropWhile (· ≠ Token.rightBracket) =
      .rightBracket :: ts := by
    rw [List.dropWhile_append_of_pos hall]
    simp
  rw [ofTokens, if_pos rfl]
  split
  · next hnil => exact absurd (hdrop.symm.trans hnil) (by simp)
  · next hcons => rw [htake, ← (List.cons.inj (hdrop.symm.trans hcons)).2]

lemma ofTokens_unclosed (h : .rightBracket ∉ ts) :
    ofTokens (.leftBracket :: ts) = [unclosed] := by
  have hdrop : ts.dropWhile (· ≠ Token.rightBracket) = [] := by
    rw [List.dropWhile_eq_nil_iff]
    exact fun t ht => decide_eq_true fun he => h (he ▸ ht)
  rw [ofTokens, if_pos rfl]
  split
  · rfl
  · next hcons => exact absurd (hdrop.symm.trans hcons) (by simp)

lemma madeOf_ofTokens (ts : List Token) : MadeOf ts (ofTokens ts) := by
  fun_induction ofTokens ts with
  | case1 => exact .nil
  | case2 ts h =>
    refine .unclosed fun hm => ?_
    have := List.dropWhile_eq_nil_iff.1 h _ hm
    simp at this
  | case3 ts t rest h ih =>
    have ht : t = .rightBracket := by
      have := List.head?_dropWhile_not (fun t => decide (t ≠ Token.rightBracket)) ts
      rw [h] at this
      simpa using this
    subst ht
    have hts : ts.takeWhile (fun t => decide (t ≠ .rightBracket)) ++ .rightBracket :: rest =
        ts := by
      rw [← h]
      exact List.takeWhile_append_dropWhile
    have hi : Token.rightBracket ∉ ts.takeWhile (fun t => decide (t ≠ .rightBracket)) :=
      fun hm => by simpa using List.mem_takeWhile_imp hm
    have hlist := MadeOf.list hi ih
    rwa [hts] at hlist
  | case4 t ts hb hs ih => exact .word (isSignificant_iff.1 hs) hb ih
  | case5 t ts hb hs ih => exact .skip (not_not.1 fun h => hs (isSignificant_iff.2 h)) ih

lemma madeOf_iff : MadeOf ts ps ↔ ps = ofTokens ts := by
  constructor
  · intro h
    induction h with
    | nil => simp [ofTokens]
    | skip ht _ ih =>
      rw [ofTokens_skip (Bool.eq_false_iff.2 fun hs => isSignificant_iff.1 hs ht), ih]
    | word ht hb _ ih => rw [ofTokens_word (isSignificant_iff.2 ht) hb, ih]
    | list hi _ ih => rw [ofTokens_list hi, ih]
    | unclosed h => rw [ofTokens_unclosed h]
  · rintro rfl
    exact madeOf_ofTokens ts

end Piece

/-! ### The forms of statements -/

/-- The keyword that a defaults statement starts with. -/
def Target.keyword : Target → Keyword
  | node => .node
  | edge => .edge
  | graph => .graph

namespace Statement

/-- The pieces of a chain behind its first id: an operator and an id, again and again. -/
def links (kind : Graph.Kind) (xs : List Token) : List Piece :=
  xs.flatMap fun x => [.word (operator kind), .word x]

/-- The pieces are a statement: two or more free ids with operators between them, with a list or
without; a free id with a list; a target with a list; or a free id, `=` and any id. -/
inductive Derives (kind : Graph.Kind) : List Piece → Statement → Prop
  | chain {x : Token} {xs : List Token} {id : String} {ids : List String} (hx : x.Free id)
      (hxs : List.Forall₂ Token.Free xs ids) (hne : xs ≠ []) :
      Derives kind (.word x :: links kind xs) (.edges (id :: ids) ∅)
  | chainWithList {x : Token} {xs : List Token} {id : String} {ids : List String} (hx : x.Free id)
      (hxs : List.Forall₂ Token.Free xs ids) (hne : xs ≠ []) (inside : List Token) :
      Derives kind (.word x :: links kind xs ++ [.list inside])
        (.edges (id :: ids) (AttributeList.read inside))
  | node {x : Token} {id : String} (hx : x.Free id) (inside : List Token) :
      Derives kind [.word x, .list inside] (.node id (AttributeList.read inside))
  | defaults {x : Token} {target : Target} (hx : x.IsKeyword target.keyword)
      (inside : List Token) :
      Derives kind [.word x, .list inside] (.defaults target (AttributeList.read inside))
  | assignment {x y : Token} {key value : String} (hx : x.Free key) (hy : y.id? = some value) :
      Derives kind [.word x, .word .equals, .word y] (.assignment key value)

variable {kind : Graph.Kind} {ps : List Piece} {s : Statement}

/-! ### Everything that is derived is accepted -/

lemma freeId?_eq_some_iff {t : Token} {id : String} : freeId? t = some id ↔ t.Free id := by
  rw [Token.free_iff, freeId?]
  cases t.keyword? <;> simp

lemma isOperator_operator (kind : Graph.Kind) : isOperator (operator kind) := by
  cases kind <;> rfl

lemma chain_links {xs : List Token} {ids : List String} (h : List.Forall₂ Token.Free xs ids)
    (first : String) (more : List String) (rest : List Piece) :
    chain kind first more (links kind xs ++ rest) = chain kind first (more ++ ids) rest := by
  induction h generalizing more with
  | nil => simp [links]
  | @cons x id xs ids hx _ ih =>
    have hlinks : links kind (x :: xs) ++ rest =
        .word (operator kind) :: .word x :: (links kind xs ++ rest) := rfl
    rw [hlinks, chain, if_pos (isOperator_operator kind), if_pos rfl, freeId?_eq_some_iff.2 hx]
    simpa using ih (more ++ [id])

lemma classify_free {x : Token} {id : String} (hx : x.Free id) (ps : List Piece) :
    classify kind (.word x :: ps) = afterId kind id ps := by
  obtain ⟨hk, hid⟩ := Token.free_iff.1 hx
  rw [classify, hk, hid]

lemma classify_target {x : Token} {target : Target} (hx : x.IsKeyword target.keyword)
    (ps : List Piece) : classify kind (.word x :: ps) = close (.defaults target) ps := by
  rw [classify, Token.keyword?_eq_some_iff.2 hx]
  cases target <;> rfl

lemma statement?_close_list (head : Head) (inside : List Token) :
    (close head [.list inside]).statement? = some (head.withList (AttributeList.read inside)) :=
  rfl

lemma afterId_links {xs : List Token} {ids : List String} (h : List.Forall₂ Token.Free xs ids)
    (hne : xs ≠ []) (id : String) (rest : List Piece) :
    afterId kind id (links kind xs ++ rest) = chain kind id ids rest := by
  obtain ⟨x, xs, rfl⟩ := List.exists_cons_of_ne_nil hne
  refine Eq.trans ?_ (chain_links h id [] rest)
  cases kind <;> rfl

lemma statement?_of_derives (h : Derives kind ps s) : (classify kind ps).statement? = some s := by
  cases h with
  | @chain x xs id ids hx hxs hne =>
    obtain ⟨i, is, rfl⟩ : ∃ i is, ids = i :: is := by
      cases hxs with
      | nil => exact absurd rfl hne
      | cons => exact ⟨_, _, rfl⟩
    have hlinks : afterId kind id (links kind xs ++ []) = chain kind id (i :: is) [] :=
      afterId_links hxs hne id []
    rw [List.append_nil] at hlinks
    rw [classify_free hx, hlinks]
    rfl
  | @chainWithList x xs id ids hx hxs hne inside =>
    obtain ⟨i, is, rfl⟩ : ∃ i is, ids = i :: is := by
      cases hxs with
      | nil => exact absurd rfl hne
      | cons => exact ⟨_, _, rfl⟩
    rw [List.cons_append, classify_free hx, afterId_links hxs hne]
    exact statement?_close_list (.ids id (i :: is)) inside
  | @node x id hx inside =>
    rw [classify_free hx]
    exact statement?_close_list (.ids id []) inside
  | @defaults x target hx inside =>
    rw [classify_target hx]
    exact statement?_close_list (.defaults target) inside
  | @assignment x y key value hx hy =>
    rw [classify_free hx, afterId, assign, hy]
    rfl

/-! ### Everything that is accepted is derived -/

lemma of_statement?_close {head : Head} (h : (close head ps).statement? = some s) :
    (ps = [] ∧ head.alone = .ok s) ∨
      ∃ inside, ps = [.list inside] ∧ s = head.withList (AttributeList.read inside) := by
  unfold close at h
  split at h
  · refine Or.inl ⟨rfl, ?_⟩
    cases halone : head.alone with
    | error r => simp [Reading.statement?, halone, Except.toOption] at h
    | ok t => simp_all [Reading.statement?, Except.toOption]
  · cases h
  · cases h
  · next inside rest =>
    match rest with
    | [] => exact Or.inr ⟨inside, rfl, (Option.some.inj h).symm⟩
    | .word _ :: _ | .list _ :: _ | .unclosed :: _ => cases h

lemma of_statement?_chain {first : String} {more : List String}
    (h : (chain kind first more ps).statement? = some s) :
    ∃ xs ids rest, ps = links kind xs ++ rest ∧ List.Forall₂ Token.Free xs ids ∧
      (close (.ids first (more ++ ids)) rest).statement? = some s := by
  fun_induction chain kind first more ps with
  | case1 more t rest id hid hop ih =>
    obtain ⟨xs, ids, rest', rfl, hxs, hclose⟩ := ih h
    refine ⟨t :: xs, id :: ids, rest', rfl, .cons (freeId?_eq_some_iff.1 hid) hxs, ?_⟩
    simpa using hclose
  | case8 more ps => exact ⟨[], [], ps, rfl, .nil, by simpa using h⟩
  | _ => cases h

lemma of_statement?_assign {key : String} (h : (assign key ps).statement? = some s) :
    ∃ y value, ps = [.word y] ∧ y.id? = some value ∧ s = .assignment key value := by
  unfold assign at h
  split at h
  · cases h
  · next t rest =>
    split at h
    · next value hid =>
      match rest with
      | [] => exact ⟨t, value, rfl, hid, (Option.some.inj h).symm⟩
      | .word _ :: _ | .list _ :: _ | .unclosed :: _ => cases h
    · cases h
  · cases h

lemma derives_of_statement?_afterId {x : Token} {id : String} (hx : x.Free id)
    (h : (afterId kind id ps).statement? = some s) : Derives kind (.word x :: ps) s := by
  unfold afterId at h
  split at h
  · obtain ⟨y, value, rfl, hy, rfl⟩ := of_statement?_assign h
    exact .assignment hx hy
  · -- a chain of one id or more, with a list or with nothing behind
    obtain ⟨xs, ids, rest, rfl, hxs, hclose⟩ := of_statement?_chain h
    rcases of_statement?_close hclose with ⟨rfl, halone⟩ | ⟨inside, rfl, rfl⟩
    · cases hxs with
      | nil => cases halone
      | cons hy hxs =>
        cases halone
        rw [List.append_nil]
        exact .chain hx (.cons hy hxs) (by simp)
    · cases hxs with
      | nil => exact .node hx inside
      | cons hy hxs => exact .chainWithList hx (.cons hy hxs) (by simp) inside

lemma derives_of_statement?_defaults {x : Token} (target : Target)
    (hx : x.IsKeyword target.keyword) (h : (close (.defaults target) ps).statement? = some s) :
    Derives kind (.word x :: ps) s := by
  rcases of_statement?_close h with ⟨-, halone⟩ | ⟨inside, rfl, rfl⟩
  · cases halone
  · exact .defaults hx inside

lemma derives_of_statement? (h : (classify kind ps).statement? = some s) : Derives kind ps s := by
  unfold classify at h
  split at h
  · cases h
  · next x ps =>
    split at h
    · cases h
    · next hk =>
      exact derives_of_statement?_defaults .node (Token.keyword?_eq_some_iff.1 hk) h
    · next hk =>
      exact derives_of_statement?_defaults .edge (Token.keyword?_eq_some_iff.1 hk) h
    · next hk =>
      exact derives_of_statement?_defaults .graph (Token.keyword?_eq_some_iff.1 hk) h
    · cases h
    · next hk =>
      split at h
      · next id hid => exact derives_of_statement?_afterId (Token.free_iff.2 ⟨hk, hid⟩) h
      · cases h
  · cases h

/-- **The grammar of statements**: a run is read as a statement exactly when it is made of pieces
from which the grammar derives the statement, and it is rejected exactly when the grammar derives
nothing from its pieces. -/
theorem statement?_read_iff (kind : Graph.Kind) (ts : List Token) :
    (∀ s, (read kind ts).statement? = some s ↔ ∃ ps, Piece.MadeOf ts ps ∧ Derives kind ps s) ∧
      ((∃ r, (read kind ts).outcome = .error r) ↔
        ∀ ps s, Piece.MadeOf ts ps → ¬ Derives kind ps s) := by
  have hiff (s : Statement) : (read kind ts).statement? = some s ↔
      ∃ ps, Piece.MadeOf ts ps ∧ Derives kind ps s := by
    constructor
    · intro h
      exact ⟨_, Piece.madeOf_ofTokens ts, derives_of_statement? h⟩
    · rintro ⟨ps, hps, hs⟩
      obtain rfl := Piece.madeOf_iff.1 hps
      exact statement?_of_derives hs
  refine ⟨hiff, ?_⟩
  constructor
  · rintro ⟨r, hr⟩ ps s hps hs
    have hsome := (hiff s).2 ⟨ps, hps, hs⟩
    rw [Reading.statement?, hr] at hsome
    cases hsome
  · intro h
    cases hout : (read kind ts).outcome with
    | error r => exact ⟨r, rfl⟩
    | ok s =>
      have hsome : (read kind ts).statement? = some s := by rw [Reading.statement?, hout]; rfl
      obtain ⟨ps, hps, hs⟩ := (hiff s).1 hsome
      exact absurd hs (h ps s hps)

end Statement

end DotDrawing
