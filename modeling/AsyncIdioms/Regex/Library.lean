/-
  What classifying asks of regular expressions.

  A catalog leaves its patterns to a library (`RegexLibrary`), which turns them into expressions and says
  whether an expression matches somewhere in a text. Nothing is assumed about either. The library that is
  run is the one of `Regex`.
-/
namespace AsyncIdioms

/-- A library of regular expressions. -/
class RegexLibrary where
  /-- The expressions, ready for use. -/
  Expr : Type
  /-- The expression of a pattern, if it is one. -/
  compile? (ignoreCase : Bool) (pattern : String) : Option Expr
  /-- Does the expression match somewhere in the text? -/
  isMatch (regex : Expr) (text : String) : Bool

end AsyncIdioms
