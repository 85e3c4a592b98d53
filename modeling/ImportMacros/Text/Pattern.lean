/-!
# ImportMacros.Text.Pattern

Patterns for the beginning of a text. There may be several ways in which a pattern fits, and the
first one in order of preference counts: a run takes as many characters as it can, and what may be
there is taken if it is there. A way that leaves a text which the rest of the pattern does not fit
is given up for the next. `cuts` lists the ways, and `before?` tries them one after the other.

A text may be reduced to the part that a pattern fits (`keep`), or all such parts may be replaced
(`replaceAll`).
-/

namespace ImportMacros
namespace Text

inductive Pattern where
  | one (test : Char → Bool)
  /-- At least one character of a class. -/
  | run (test : Char → Bool)
  | maybe (p : Pattern)
  | seq (p q : Pattern)

/-- A text cut in two: what a pattern fits, and what is left. -/
abbrev Cut := List Char × List Char

namespace Pattern

/-- The ways to cut off characters of a class, the longest first. -/
def runs (test : Char → Bool) : List Char → List Cut
  | [] => []
  | c :: cs => if test c then (runs test cs).map (fun cut => (c :: cut.1, cut.2)) ++ [([c], cs)] else []

/-- The ways in which a pattern fits, in order of preference. -/
def cuts : Pattern → List Char → List Cut
  | .one _, [] => []
  | .one test, c :: cs => if test c then [([c], cs)] else []
  | .run test, cs => runs test cs
  | .maybe p, cs => cuts p cs ++ [([], cs)]
  | .seq p q, cs =>
    (cuts p cs).flatMap fun cut => (cuts q cut.2).map fun next => (cut.1 ++ next.1, next.2)

/-- A text in which the part that `group` and after it `tail` fit is replaced by the part that
`group` fits. A text that they do not fit stays as it is. -/
def keep (group tail : Pattern) (text : List Char) : List Char :=
  let kept := (group.cuts text).findSome? fun cut =>
    (tail.cuts cut.2).head?.map fun next => cut.1 ++ next.2
  kept.getD text

/-- The answer of `next` to what the longest run of characters of a class leaves, else to what a
shorter one leaves. -/
def beforeRun? {α : Type} (test : Char → Bool) (next : List Char → Option α) :
    List Char → Option α
  | [] => none
  | c :: cs => if test c then beforeRun? test next cs <|> next cs else none

/-- The answer of `next` to what a pattern leaves, in the first way in which there is one. -/
def before? {α : Type} : Pattern → (List Char → Option α) → List Char → Option α
  | .one _, _, [] => none
  | .one test, next, c :: cs => if test c then next cs else none
  | .run test, next, cs => beforeRun? test next cs
  | .maybe p, next, cs => before? p next cs <|> next cs
  | .seq p q, next, cs => before? p (before? q next) cs

/-- `replaceAll` in the middle of a text: `taken` characters are replaced already. -/
def replaceFrom (p : Pattern) (new : List Char) : Nat → List Char → List Char
  | _, [] => []
  | taken + 1, _ :: cs => replaceFrom p new taken cs
  | 0, c :: cs =>
    match p.before? some (c :: cs) with
    | some rest =>
      if rest.length ≤ cs.length then new ++ replaceFrom p new (cs.length - rest.length) cs
      else c :: replaceFrom p new 0 cs
    | none => c :: replaceFrom p new 0 cs

/-- A text in which every part that a pattern fits is replaced, from left to right. A part without
any characters is passed over. -/
def replaceAll (p : Pattern) (new text : List Char) : List Char :=
  replaceFrom p new 0 text

end Pattern
end Text
end ImportMacros
