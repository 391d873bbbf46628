import DotDrawing.Proofs.Token.Partition
import DotDrawing.Proofs.Token.Writing

/-!
Quoted texts and their tokens.

The plain texts, those on one line that do not end in a backslash, are what quoted tokens stand for:
each of them is read back from between its quotes whatever follows (`Scans.quote`), and no other
text comes out of a source. Main statement: `located_quoted`.
-/

namespace DotDrawing

namespace Text

/-- The text between double quotes, with a backslash before every quote in it. -/
def quoted (s : String) : String := String.ofList (quote s.toList)

lemma plain_of_close? {s t r : List Char} (h : close? s = some (t, r)) : Plain (String.ofList t) := by
  rw [Plain, String.toList_ofList]
  fun_induction close? s generalizing t r with
  | case1 => cases h
  | case2 s ih =>
    obtain ⟨p, hp, hq⟩ := Option.map_eq_some_iff.1 h
    cases hq
    obtain ⟨hn, hb⟩ := ih hp
    refine ⟨by simp [hn], ?_⟩
    rw [List.getLast?_cons]
    cases hlast : p.1.getLast? <;> simp_all
  | case3 s =>
    cases h
    simp
  | case4 => cases h
  | case5 c s hescape hq hnewline ih =>
    obtain ⟨p, hp, hpq⟩ := Option.map_eq_some_iff.1 h
    cases hpq
    obtain ⟨hn, hb⟩ := ih hp
    refine ⟨by simp [hn, Ne.symm hnewline], ?_⟩
    rw [List.getLast?_cons]
    cases hlast : p.1.getLast? with
    | some d => simpa [hlast] using hb
    | none =>
      -- a backslash in front of the closing quote would have been an escape
      have hnil : p.1 = [] := List.getLast?_eq_none_iff.1 hlast
      have hs : s = '"' :: p.2 := by
        have hspell := Token.escape_append_of_close? hp
        rw [hnil] at hspell
        exact hspell.symm
      rintro hc
      exact hescape p.2 (by simpa using hc) hs

end Text

namespace Token

lemma first_quote (r : List Char) : first '"' r =
    ((Text.close? r).map fun p => (Token.quoted (String.ofList p.1), p.2)).getD
      (.unknown '"', r) := by
  cases h : Text.close? r with
  | some p => simp [first, rules, lineComment?, blockComment?, quoted?, h]
  | none =>
    have hother : ∀ rule ∈ [edgeOperator?, identifier?, numeral?, punctuation?, blank?],
        rule ('"' :: r) = none := by
      simp only [List.mem_cons, List.not_mem_nil, or_false]
      rintro rule (rfl | rfl | rfl | rfl | rfl) <;> rfl
    simp [first, rules, lineComment?, blockComment?, quoted?, h, hother]

lemma plain_of_mem_scan {s : List Char} {text : String} (h : .quoted text ∈ scan s) :
    Text.Plain text := by
  obtain ⟨c, r, hfirst⟩ := exists_first_of_mem_scan h
  have hspell := (first_spelling c r).1
  rw [← hfirst, spelling, Text.quote, List.cons_append] at hspell
  obtain rfl := (List.cons.inj hspell).1
  rw [first_quote] at hfirst
  cases hclose : Text.close? r with
  | none => simp [hclose] at hfirst
  | some p =>
    rw [hclose, Option.map_some, Option.getD_some, quoted.injEq] at hfirst
    rw [hfirst]
    exact Text.plain_of_close? hclose

/-- **Quoting**: a plain text between its quotes makes one token that stands for it, in front of the
tokens of whatever follows. The other way round, each quoted token of a source stands for a plain
text and is written as this text between its quotes. -/
theorem located_quoted (s source : String) :
    (Text.Plain s → located (Text.quoted s ++ source) =
      (.quoted s, ⟨0, (Text.quoted s).utf8ByteSize⟩) ::
        (located source).map fun p => (p.1, p.2.shift (Text.quoted s).utf8ByteSize)) ∧
    ∀ p ∈ located source, ∀ text, p.1 = .quoted text →
      Text.Plain text ∧ Span.slice? source p.2 = some (Text.quoted text) := by
  constructor
  · -- the text between quotes is one token, and what follows is scanned by itself
    intro hs
    have htext : (Text.quoted s ++ source).toList = Text.quote s.toList ++ source.toList := by
      simp [Text.quoted]
    have hlen : byteLength (Text.quote s.toList) = (Text.quoted s).utf8ByteSize :=
      (utf8ByteSize_ofList _).symm
    have hshift := locate_add 0 (Text.quoted s).utf8ByteSize (scan source.toList)
    calc located (Text.quoted s ++ source)
      _ = locate 0 (.quoted s :: scan source.toList) := by
        rw [located, ofString, htext, Scans.quote hs]
        rfl
      _ = (.quoted s, ⟨0, (Text.quoted s).utf8ByteSize⟩) ::
          locate (0 + (Text.quoted s).utf8ByteSize) (scan source.toList) := by
        rw [locate, spelling, hlen, Nat.zero_add]
      _ = _ := by
        rw [hshift]
        rfl
  · intro p hp text htext
    have hmem : p.1 ∈ scan source.toList := by
      have hmap := List.mem_map_of_mem (f := Prod.fst) hp
      rwa [located, map_fst_locate] at hmap
    rw [htext] at hmem
    refine ⟨plain_of_mem_scan hmem, ?_⟩
    rw [slice?_of_mem_located hp, htext]
    rfl

/-- A text with a quote behind one backslash and behind two. -/
def thorns : String := "\\\"é\\\\\"//"

/-- What follows: a backslash, a quoted text of one quote, and a quote that nothing closes. -/
def behindThorns : String := "\\\"\\\"\"\"\\\""

/-- A quote ends a text or not by the one character in front of it. -/
theorem located_quoted_thorns :
    Text.Plain thorns ∧
      located (Text.quoted thorns ++ behindThorns) =
        [(.quoted thorns, ⟨0, 13⟩), (.unknown '\\', ⟨13, 14⟩), (.quoted "\"", ⟨14, 18⟩),
          (.unknown '"', ⟨18, 19⟩), (.unknown '\\', ⟨19, 20⟩), (.unknown '"', ⟨20, 21⟩)] ∧
      (.quoted "\"", ⟨1, 5⟩) ∈ located behindThorns ∧ Text.Plain "\"" ∧
      Span.slice? behindThorns ⟨1, 5⟩ = some (Text.quoted "\"") := by
  have hplain : Text.Plain thorns := by decide
  have hbehind : located behindThorns =
      [(.unknown '\\', ⟨0, 1⟩), (.quoted "\"", ⟨1, 5⟩), (.unknown '"', ⟨5, 6⟩),
        (.unknown '\\', ⟨6, 7⟩), (.unknown '"', ⟨7, 8⟩)] := by
    decide +kernel
  have hmem : (.quoted "\"", ⟨1, 5⟩) ∈ located behindThorns := by
    rw [hbehind]
    simp
  obtain ⟨hquoted, htoken⟩ := located_quoted thorns behindThorns
  refine ⟨hplain, ?_, hmem, htoken _ hmem _ rfl⟩
  rw [hquoted hplain, hbehind]
  decide +kernel

end Token

end DotDrawing
