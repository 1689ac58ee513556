import TypedPrefs.Code.Item

/-!
# Reading code

The readers for types, patterns, expressions and items close a circle: each is given the readers for
the code inside of it, which go one level less deep. A level is spent on every step from code to the
code inside, and between two steps that use up no token there are only few others, so the number of
tokens bounds the depth.

`typeSyntax?`, `pathSyntax?` and `parameterSyntax?` stand for `parse_str` of `syn` at a type, a path
and a type parameter.
-/

namespace TypedPrefs.Code

namespace Grammar

/-- Readers for code that is nested at most so deep. -/
def nested : Nat → Nested
  | 0 => {
      type := fun _ => failure
      bound := fun _ => failure
      pattern := failure
      operand := fun _ => failure
      extended := fun _ _ _ => failure
      early := failure
      statements := failure
      item := failure }
  | depth + 1 => {
      type := fun plus ts => typeStep (nested depth) plus ts
      bound := fun place ts => boundStep (nested depth) place ts
      pattern := fun ts => patternStep (nested depth) ts
      operand := fun braces ts => operandStep (nested depth) braces ts
      extended := fun braces p e ts => extendedStep (nested depth) braces p e ts
      early := fun ts => earlyStep (nested depth) ts
      statements := fun ts => statementsStep (nested depth) ts
      item := fun ts => itemStep (nested depth) ts }

/-- Readers that go deep enough for these tokens. -/
def nestedFor (ts : List Token) : Nested := nested (8 * (Token.weightOf ts + 1))

/-- What a reader makes of a text, if it takes all of its tokens. -/
def readAll? {α : Type} (read : Nested → Reader α) (s : String) : Option α := do
  let ts ← tokens? s
  whole? (read (nestedFor ts)) ts

end Grammar

open Grammar

/-- The type that a text consists of. -/
def typeSyntax? (s : String) : Option TypeSyntax := readAll? (fun r => r.type true) s

/-- The path that a text consists of. -/
def pathSyntax? (s : String) : Option PathSyntax := readAll? (fun r => path r false) s

/-- A type parameter with its attributes. -/
def namedParameter (r : Nested) : Reader ParameterSyntax := do typeParameter r (← leading r)

/-- The name and the bounds of the type parameter that a text consists of. -/
def parameterSyntax? (s : String) : Option (String × List BoundSyntax) :=
  match readAll? namedParameter s with
  | some (.type _ name bounds _) => some (name, bounds.map Prod.fst)
  | _ => none

end TypedPrefs.Code
