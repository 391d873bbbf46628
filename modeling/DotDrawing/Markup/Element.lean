/-!
Markup text.

An element has attributes and holds other elements, or it is a label and holds a text. Every child
and every closing tag stands on a line of its own; a label has an empty line in front of its text.
Values and texts are written so that no character of them can be read as markup.
-/

namespace DotDrawing.Markup

/-- An element of a document. Attributes are listed by name. -/
inductive Element
  | node (name : String) (attributes : List (String × String)) (children : List Element)
  | label (name : String) (attributes : List (String × String)) (content : String)
  deriving Repr

/-- A character inside an attribute value. -/
def escapeInValue : Char → List Char
  | '&' => "&amp;".toList
  | '<' => "&lt;".toList
  | '>' => "&gt;".toList
  | '"' => "&quot;".toList
  | '\'' => "&apos;".toList
  | c => [c]

/-- A character inside a text. -/
def escapeInText : Char → List Char
  | '&' => "&amp;".toList
  | '<' => "&lt;".toList
  | '>' => "&gt;".toList
  | c => [c]

def printAttribute (a : String × String) : List Char :=
  ' ' :: a.1.toList ++ "=\"".toList ++ a.2.toList.flatMap escapeInValue ++ ['"']

/-- A start tag without its end. -/
def printTag (name : String) (attributes : List (String × String)) : List Char :=
  '<' :: name.toList ++ attributes.flatMap printAttribute

def printEnd (name : String) : List Char := "\n</".toList ++ name.toList ++ ['>']

mutual

def Element.print : Element → List Char
  | .node name attributes [] => printTag name attributes ++ "/>".toList
  | .node name attributes (c :: cs) =>
    printTag name attributes ++ '>' :: printChildren (c :: cs) ++ printEnd name
  | .label name attributes content =>
    printTag name attributes ++ ">\n\n".toList ++ content.toList.flatMap escapeInText ++
      printEnd name

/-- The elements, each on a line of its own. -/
def printChildren : List Element → List Char
  | [] => []
  | c :: cs => '\n' :: c.print ++ printChildren cs

end

def Element.text (e : Element) : String := String.ofList e.print

end DotDrawing.Markup
