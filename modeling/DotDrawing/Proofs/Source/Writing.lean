import DotDrawing.Proofs.Source.Statements
import DotDrawing.Proofs.Statement.Writing

/-!
Writing sources down.

A source is written as its header, one line for each statement, and a closing brace. Main statement:
it is read as this header and these statements (`Source.graph_write`).
-/

namespace DotDrawing

open Token (Scans)

namespace Header

/-- The header without the word `strict`. -/
def nameText (h : Header) : List Char :=
  h.kind.word.toList ++ ' ' :: Text.quote h.id.toList ++ [' ', '{']

def nameTokens (h : Header) : List Token :=
  [.identifier h.kind.word, .blank " ", .quoted h.id, .blank " ", .leftBrace]

def text (h : Header) : List Char :=
  if h.strict then "strict".toList ++ ' ' :: h.nameText else h.nameText

def tokens (h : Header) : List Token :=
  if h.strict then .identifier "strict" :: .blank " " :: h.nameTokens else h.nameTokens

variable {h : Header}

lemma scans_nameText (hid : Text.Plain h.id) : Scans h.nameText h.nameTokens := by
  have hopen : Scans [' ', '{'] [.blank " ", .leftBrace] :=
    (Scans.nil.cons (c := '{') fun _ => rfl).blank rfl
  have hname := (Scans.quote hid).blank (c := '"') rfl
  rw [nameText, nameTokens]
  cases h.kind with
  | directed => exact (hname.keyword .digraph).append hopen
  | undirected => exact (hname.keyword .graph).append hopen

lemma scans_text (hid : Text.Plain h.id) : Scans h.text h.tokens := by
  have hname := scans_nameText hid
  have hcons : ∃ c b, h.nameText = c :: b ∧ Token.isLineBlank c = false := by
    rw [nameText]
    cases h.kind <;> exact ⟨_, _, rfl, rfl⟩
  obtain ⟨c, b, hcb, hc⟩ := hcons
  rw [text, tokens]
  split
  · rw [hcb] at hname ⊢
    exact (hname.blank hc).keyword .strict
  · exact hname

end Header

namespace Source

/-- The lines below the header: one for each statement, and the closing brace. -/
def bodyText (kind : Graph.Kind) (ss : List Statement) : List Char :=
  ss.flatMap (fun s => '\n' :: s.text kind) ++ ['\n', '}']

/-- A header and statements as a source. -/
def write (h : Header) (ss : List Statement) : String :=
  String.ofList (h.text ++ bodyText h.kind ss)

variable {kind : Graph.Kind} {ss : List Statement}

end Source

end DotDrawing
