/-!
Quoted texts.

A quoted text stands between double quotes on one line. The only escape is a backslash before a
quote; every other backslash stands for itself. `escape` writes the inside of a quoted text and
`close?` reads it up to the closing quote.
-/

namespace DotDrawing.Text

/-- The text with a backslash before every quote. -/
def escape : List Char → List Char
  | [] => []
  | c :: r => if c = '"' then '\\' :: '"' :: escape r else c :: escape r

def quote (cs : List Char) : List Char := '"' :: (escape cs ++ ['"'])

/-- What an opening quote has behind it: the quoted text and what follows the closing quote, or
nothing when the line ends first. -/
def close? : List Char → Option (List Char × List Char)
  | [] => none
  | '\\' :: '"' :: r => (close? r).map fun p => ('"' :: p.1, p.2)
  | c :: r =>
    if c = '"' then some ([], r)
    else if c = '\n' then none
    else (close? r).map fun p => (c :: p.1, p.2)

@[simp] theorem escape_nil : escape [] = [] := rfl

theorem escape_cons (c : Char) (r : List Char) :
    escape (c :: r) = if c = '"' then '\\' :: '"' :: escape r else c :: escape r := rfl

theorem length_le_of_close? {s t r : List Char} (h : close? s = some (t, r)) :
    r.length < s.length := by
  fun_induction close? s generalizing t r with
  | case1 => simp at h
  | case2 s ih =>
    obtain ⟨p, hp, hq⟩ := Option.map_eq_some_iff.1 h
    cases hq
    have := ih hp
    simp only [List.length_cons]; omega
  | case3 s => cases h; simp
  | case4 => simp at h
  | case5 c s _ _ _ ih =>
    obtain ⟨p, hp, hq⟩ := Option.map_eq_some_iff.1 h
    cases hq
    have := ih hp
    simp only [List.length_cons]; omega

end DotDrawing.Text
