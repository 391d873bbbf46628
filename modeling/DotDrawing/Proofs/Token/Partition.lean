import DotDrawing.Proofs.Token.Bounded
import Mathlib.Data.List.Basic

/-!
The tokens of a text as its parts.

A text can be cut between any two of its tokens, and every part has the tokens that it has in the
whole (`scan_spellings`). The spans of the tokens follow one another from the first byte to the
last, and the text of a run of tokens is what lies between its ends. Main statement:
`located_tiles`.
-/

namespace DotDrawing

namespace Token

/-! ### Parts of the tokens of a text -/

lemma bounded_findSome? {rs : List Rule} (h : ∀ rule ∈ rs, Bounded rule) :
    Bounded fun s => rs.findSome? fun rule => rule s := by
  induction rs with
  | nil => exact ⟨fun _ => rfl, fun h => by cases h⟩
  | cons rule rs ih =>
    have hrule := h rule List.mem_cons_self
    have hmore := ih fun x hx => h x (List.mem_cons_of_mem _ hx)
    constructor
    · intro s rest hnone
      rw [List.findSome?_cons] at hnone ⊢
      cases hwhole : rule (s ++ rest) with
      | some p => simp [hwhole] at hnone
      | none =>
        rw [hwhole] at hnone
        rw [hrule.of_eq_none hwhole]
        exact hmore.of_eq_none hnone
    · intro s rest t r hsome
      rw [List.findSome?_cons] at hsome ⊢
      cases hwhole : rule (s ++ rest) with
      | some p =>
        rw [hwhole] at hsome
        cases hsome
        rw [hrule.of_eq_some hwhole]
      | none =>
        rw [hwhole] at hsome
        rw [hrule.of_eq_none hwhole]
        exact hmore.of_eq_some hsome

lemma first_of_append {c : Char} {s rest r : List Char} {t : Token}
    (h : first c (s ++ rest) = (t, r ++ rest)) : first c s = (t, r) := by
  have hrules : Bounded fun s => rules.findSome? fun rule => rule s :=
    bounded_findSome? bounded_of_mem_rules
  rw [first, ← List.cons_append] at h
  rw [first]
  cases hwhole : rules.findSome? fun rule => rule (c :: s ++ rest) with
  | some p =>
    rw [hwhole, Option.getD_some] at h
    rw [h] at hwhole
    rw [hrules.of_eq_some hwhole, Option.getD_some]
  | none =>
    rw [hwhole, Option.getD_none] at h
    obtain ⟨rfl, hr⟩ := Prod.mk.inj h
    rw [hrules.of_eq_none hwhole, Option.getD_none, List.append_cancel_right hr]

lemma spelling_ne_nil_of_mem_scan {s : List Char} {t : Token} (ht : t ∈ scan s) :
    t.spelling ≠ [] := by
  obtain ⟨c, r, rfl⟩ := exists_first_of_mem_scan ht
  exact (first_spelling c r).2

/-- **Cutting a text** in front of some of its tokens leaves the tokens on both sides as they
are. -/
lemma scan_of_append {us vs : List Token} {s rest : List Char} (h : scan (s ++ rest) = us ++ vs)
    (hs : spellings us = s) : scan s = us ∧ scan rest = vs := by
  induction us generalizing s with
  | nil =>
    subst hs
    exact ⟨scan_nil, h⟩
  | cons t us ih =>
    -- the last tokens spell the rest
    have hrest : spellings vs = rest := by
      have htext := spellings_scan (s ++ rest)
      rw [h, spellings_append, hs] at htext
      exact List.append_cancel_left htext
    obtain ⟨c, w, rfl⟩ : ∃ c w, s = c :: w := by
      refine List.exists_cons_of_ne_nil ?_
      rw [← hs, spellings_cons]
      have ht : t ∈ scan (s ++ rest) := by rw [h]; exact List.mem_cons_self
      exact fun hnil => spelling_ne_nil_of_mem_scan ht (List.append_eq_nil_iff.1 hnil).1
    rw [List.cons_append, scan_cons] at h
    obtain ⟨ht, hscan⟩ := List.cons.inj h
    -- the first token leaves what the others spell
    have hleft : (first c (w ++ rest)).2 = spellings us ++ rest := by
      have hspell := spellings_scan (first c (w ++ rest)).2
      rw [hscan] at hspell
      rw [← hspell, List.append_eq, spellings_append, hrest]
    have hfirst : first c w = (t, spellings us) := first_of_append (Prod.ext ht hleft)
    rw [hleft] at hscan
    obtain ⟨hus, hvs⟩ := ih hscan rfl
    refine ⟨?_, hvs⟩
    rw [scan_cons, hfirst, hus]

lemma scan_spellings {s : List Char} {us : List Token} (h : us <:+: scan s) :
    scan (spellings us) = us := by
  obtain ⟨before, after, hs⟩ := h
  have htext := spellings_scan s
  rw [← hs, List.append_assoc, spellings_append] at htext
  rw [← htext, List.append_assoc] at hs
  -- first the tokens in front are cut off, then those behind
  have hbehind := (scan_of_append hs.symm rfl).2
  rw [spellings_append] at hbehind
  exact (scan_of_append hbehind rfl).1

end Token

/-! ### Cutting by bytes -/

/-- The text between two bytes of a source, if they are in order and no character is cut. -/
def Span.slice? (s : String) (span : Span) : Option String := do
  let start ← s.pos? ⟨span.start⟩
  let stop ← s.pos? ⟨span.stop⟩
  if start ≤ stop then some (s.extract start stop) else none

/-- The spans follow one another without gaps from one byte to another, and none is empty. -/
def Span.Tiles : Nat → List Span → Nat → Prop
  | first, [], last => first = last
  | first, s :: ss, last => s.start = first ∧ s.start < s.stop ∧ Tiles s.stop ss last

/-- What a run of tokens stands for, cut out of the source from its first token to its last. -/
def Token.cutText? (s : String) (run : List (Token × Span)) : Option String :=
  match run.head?, run.getLast? with
  | some first, some last => (Span.slice? s ⟨first.2.start, last.2.stop⟩).map Text.trimmed
  | _, _ => some ""

lemma pos?_eq_some {s : String} {p : String.Pos.Raw} (h : p.IsValid s) :
    s.pos? p = some (s.pos p h) := by
  simp only [String.pos?, String.Slice.pos?, String.pos]
  rw [dif_pos]
  · rfl
  · simpa using h

lemma Span.slice?_append (a b c : String) :
    slice? (a ++ b ++ c) ⟨a.utf8ByteSize, a.utf8ByteSize + b.utf8ByteSize⟩ = some b := by
  have hstart : String.Pos.Raw.IsValid (a ++ b ++ c) ⟨a.utf8ByteSize⟩ :=
    String.Pos.Raw.isValid_iff_exists_append.2 ⟨a, b ++ c, by rw [String.append_assoc], rfl⟩
  have hstop : String.Pos.Raw.IsValid (a ++ b ++ c) ⟨a.utf8ByteSize + b.utf8ByteSize⟩ :=
    String.Pos.Raw.isValid_iff_exists_append.2 ⟨a ++ b, c, rfl, by
      rw [String.Pos.Raw.ext_iff]; simp⟩
  have hle : (a ++ b ++ c).pos _ hstart ≤ (a ++ b ++ c).pos _ hstop := by
    simp [String.Pos.le_iff, String.Pos.Raw.le_iff]
  have hsize : a.utf8ByteSize + b.utf8ByteSize = (a.toByteArray ++ b.toByteArray).size := by
    simp
  have hbytes : ((a ++ b ++ c).extract ((a ++ b ++ c).pos _ hstart)
      ((a ++ b ++ c).pos _ hstop)).toByteArray = b.toByteArray := by
    rw [String.toByteArray_extract, String.offset_pos, String.offset_pos,
      String.toByteArray_append, String.toByteArray_append]
    dsimp only
    rw [hsize, ByteArray.extract_append_size_left]
    exact ByteArray.extract_append_eq_right (by simp) (by simp)
  rw [slice?, pos?_eq_some hstart, pos?_eq_some hstop]
  simp only [Option.bind_eq_bind, Option.bind_some, if_pos hle]
  exact congrArg some (String.toByteArray_inj.1 hbytes)

lemma utf8ByteSize_ofList (cs : List Char) : (String.ofList cs).utf8ByteSize = byteLength cs := by
  rw [← byteLength_toList, String.toList_ofList]

lemma byteLength_pos {cs : List Char} (h : cs ≠ []) : 0 < byteLength cs := by
  obtain ⟨c, r, rfl⟩ := List.exists_cons_of_ne_nil h
  have := c.utf8Size_pos
  rw [byteLength_cons]
  omega

namespace Token

/-! ### The spans of a text -/

lemma tiles_locate {ts : List Token} (h : ∀ t ∈ ts, t.spelling ≠ []) (start : Nat) :
    Span.Tiles start ((locate start ts).map Prod.snd) (start + byteLength (spellings ts)) := by
  induction ts generalizing start with
  | nil => rfl
  | cons t ts ih =>
    have hpos := byteLength_pos (h t List.mem_cons_self)
    have hmore := ih (fun u hu => h u (List.mem_cons_of_mem _ hu)) (start + byteLength t.spelling)
    refine ⟨rfl, Nat.lt_add_of_pos_right hpos, ?_⟩
    rwa [spellings_cons, byteLength_append, ← Nat.add_assoc]

lemma locate_eq_append {start : Nat} {ts : List Token} {us vs : List (Token × Span)}
    (h : locate start ts = us ++ vs) : ∃ as bs, ts = as ++ bs ∧ us = locate start as ∧
      vs = locate (start + byteLength (spellings as)) bs := by
  induction us generalizing start ts with
  | nil => exact ⟨[], ts, rfl, rfl, h.symm⟩
  | cons u us ih =>
    cases ts with
    | nil => cases h
    | cons t ts =>
      obtain ⟨rfl, hmore⟩ := List.cons.inj h
      obtain ⟨as, bs, rfl, rfl, rfl⟩ := ih hmore
      refine ⟨t :: as, bs, rfl, rfl, ?_⟩
      rw [spellings_cons, byteLength_append, ← Nat.add_assoc]

lemma exists_of_infix_located {s : String} {run : List (Token × Span)} (h : run <:+: located s) :
    ∃ before ts after, scan s.toList = before ++ ts ++ after ∧
      run = locate (byteLength (spellings before)) ts := by
  obtain ⟨us, vs, hs⟩ := h
  obtain ⟨as, after, hscan, has, -⟩ := locate_eq_append hs.symm
  obtain ⟨before, ts, rfl, -, rfl⟩ := locate_eq_append has.symm
  exact ⟨before, ts, after, hscan, by rw [Nat.zero_add]⟩

lemma ends_locate (start : Nat) {ts : List Token} (hne : ts ≠ []) :
    (∃ first, (locate start ts).head? = some first ∧ first.2.start = start) ∧
      ∃ last, (locate start ts).getLast? = some last ∧
        last.2.stop = start + byteLength (spellings ts) := by
  constructor
  · obtain ⟨t, us, rfl⟩ := List.exists_cons_of_ne_nil hne
    exact ⟨_, rfl, rfl⟩
  · obtain ⟨us, t, rfl⟩ := (List.eq_nil_or_concat' ts).resolve_left hne
    have hlast : locate start (us ++ [t]) = locate start us ++ [(t,
        ⟨start + byteLength (spellings us), start + byteLength (spellings us) +
          byteLength t.spelling⟩)] := locate_append ..
    refine ⟨_, by rw [hlast, List.getLast?_concat], ?_⟩
    simp [Nat.add_assoc]

lemma slice?_run {s : String} {before ts after : List Token}
    (h : scan s.toList = before ++ ts ++ after) :
    Span.slice? s ⟨byteLength (spellings before),
      byteLength (spellings before) + byteLength (spellings ts)⟩ =
        some (String.ofList (spellings ts)) := by
  have htext : s = String.ofList (spellings before) ++ String.ofList (spellings ts) ++
      String.ofList (spellings after) := by
    have hspell := spellings_scan s.toList
    rw [h, spellings_append, spellings_append] at hspell
    rw [← String.ofList_append, ← String.ofList_append, hspell, String.ofList_toList]
  have hslice := Span.slice?_append (String.ofList (spellings before))
    (String.ofList (spellings ts)) (String.ofList (spellings after))
  rwa [← htext, utf8ByteSize_ofList, utf8ByteSize_ofList] at hslice

lemma slice?_of_mem_located {s : String} {p : Token × Span} (hp : p ∈ located s) :
    Span.slice? s p.2 = some (String.ofList p.1.spelling) := by
  obtain ⟨us, vs, hs⟩ := List.append_of_mem hp
  have hinfix : [p] <:+: located s := ⟨us, vs, by rw [hs, List.append_assoc]; rfl⟩
  obtain ⟨before, ts, after, hscan, hrun⟩ := exists_of_infix_located hinfix
  obtain ⟨t, rfl⟩ : ∃ t, ts = [t] := by
    have hlen := congrArg List.length (congrArg (List.map Prod.fst) hrun)
    rw [map_fst_locate] at hlen
    exact List.length_eq_one_iff.1 hlen.symm
  obtain rfl := (List.cons.inj hrun).1
  have hslice := slice?_run hscan
  rwa [spellings_cons, spellings_nil, List.append_nil] at hslice

lemma cutText?_located {s : String} {run : List (Token × Span)} (h : run <:+: located s) :
    cutText? s run = some (sourceText (run.map Prod.fst)) := by
  obtain ⟨before, ts, after, hscan, rfl⟩ := exists_of_infix_located h
  rw [map_fst_locate]
  by_cases hne : ts = []
  · subst hne
    rfl
  · obtain ⟨⟨first, hfirst, hstart⟩, last, hlast, hstop⟩ :=
      ends_locate (byteLength (spellings before)) hne
    rw [cutText?, hfirst, hlast]
    dsimp only
    rw [hstart, hstop, slice?_run hscan, Option.map_some, Text.trimmed, String.toList_ofList]
    rfl

lemma sourceText_eq_trimmed_join (ts : List Token) :
    sourceText ts = Text.trimmed (String.join (ts.map fun t => String.ofList t.spelling)) := by
  have hjoin : (String.join (ts.map fun t => String.ofList t.spelling)).toList = spellings ts := by
    rw [String.toList_join, List.flatMap_map]
    simp only [String.toList_ofList]
    rfl
  rw [Text.trimmed, hjoin]
  rfl

lemma located_spelling {s : String} {p : Token × Span} (hp : p ∈ located s) :
    located (String.ofList p.1.spelling) =
      [(p.1, ⟨0, (String.ofList p.1.spelling).utf8ByteSize⟩)] := by
  have hmem : p.1 ∈ scan s.toList := by
    have hmap := List.mem_map_of_mem (f := Prod.fst) hp
    rwa [located, map_fst_locate] at hmap
  have hscan : scan p.1.spelling = [p.1] := by
    obtain ⟨us, vs, hs⟩ := List.append_of_mem hmem
    have hinfix : [p.1] <:+: scan s.toList := ⟨us, vs, by rw [hs, List.append_assoc]; rfl⟩
    have hself := scan_spellings hinfix
    rwa [spellings_cons, spellings_nil, List.append_nil] at hself
  rw [located, ofString, String.toList_ofList, hscan, utf8ByteSize_ofList, locate, locate]
  simp

/-- **Tokens tile the source**: the spans of the tokens go from the first byte to the last without
gaps, each cuts out a text that makes this one token by itself, and the text that a run of tokens
cuts out is that of its tokens, trimmed. -/
theorem located_tiles (s : String) :
    Span.Tiles 0 ((located s).map Prod.snd) s.utf8ByteSize ∧
      (∀ p ∈ located s, ∃ text, Span.slice? s p.2 = some text ∧
        located text = [(p.1, ⟨0, text.utf8ByteSize⟩)]) ∧
      ∀ run, run <:+: located s → ∃ texts : List String,
        run.map (fun p => Span.slice? s p.2) = texts.map some ∧
          cutText? s run = some (Text.trimmed (String.join texts)) ∧
          cutText? s run = some (sourceText (run.map Prod.fst)) := by
  refine ⟨?_, fun p hp => ⟨_, slice?_of_mem_located hp, located_spelling hp⟩, fun run hrun => ?_⟩
  · have hne : ∀ t ∈ scan s.toList, t.spelling ≠ [] := fun t => spelling_ne_nil_of_mem_scan
    have htiles := tiles_locate hne 0
    rwa [spellings_scan, byteLength_toList, Nat.zero_add] at htiles
  · refine ⟨run.map fun p => String.ofList p.1.spelling, ?_, ?_, cutText?_located hrun⟩
    · rw [List.map_map]
      exact List.map_congr_left fun p hp => slice?_of_mem_located (hrun.subset hp)
    · rw [cutText?_located hrun, sourceText_eq_trimmed_join, List.map_map]
      rfl

/-- A source with characters of two bytes, a comment, and a quote that nothing closes. -/
def mixed : String := "λ .5/*é*/ \"b"

/-- The tokens of the source from the first blank to the second. -/
def mixedRun : List (Token × Span) :=
  [(.blank " ", ⟨2, 3⟩), (.numeral ".5", ⟨3, 5⟩), (.blockComment "é", ⟨5, 11⟩),
    (.blank " ", ⟨11, 12⟩)]

/-- The open quote is a token by itself, and a run of tokens is cut out behind the first two
bytes. -/
theorem located_tiles_mixed :
    (.unknown '"', ⟨12, 13⟩) ∈ located mixed ∧
      (∃ text, Span.slice? mixed ⟨12, 13⟩ = some text ∧
        located text = [(.unknown '"', ⟨0, text.utf8ByteSize⟩)]) ∧
      mixedRun <:+: located mixed ∧ cutText? mixed mixedRun = some ".5/*é*/" := by
  have hlocated : located mixed = [(.identifier "λ", ⟨0, 2⟩)] ++ mixedRun ++
      [(.unknown '"', ⟨12, 13⟩), (.identifier "b", ⟨13, 14⟩)] := by
    decide +kernel
  have hmem : (.unknown '"', ⟨12, 13⟩) ∈ located mixed := by
    rw [hlocated]
    simp
  have hrun : mixedRun <:+: located mixed := ⟨_, _, hlocated.symm⟩
  obtain ⟨-, htoken, hcut⟩ := located_tiles mixed
  obtain ⟨texts, -, -, htext⟩ := hcut mixedRun hrun
  exact ⟨hmem, htoken _ hmem, hrun, htext.trans (by decide +kernel)⟩

end Token

end DotDrawing
