import TypedPrefs.Report.Message
import TypedPrefs.Types.TypeRef
import TypedPrefs.Code.Grammar

/-!
# Type expressions

A type expression is a type as it is written in code, of which only paths with type arguments, the
empty tuple and parentheses mean something in a declaration. A type parameter is a name with bounds.

`TypeRef.parse` and `TypeParam.parse` are the functions of these names in the generator's module
`types`; `ofSyntax` and `ofPath` are `from_syn_type` and `from_syn_path`.
-/

namespace TypedPrefs

open Code

/-- Why a text is no type of a declaration. -/
inductive TypeFault where
  /-- It is no type in code either. -/
  | malformed
  | notAPath
  | notATypeArgument
  | functionArguments
  | notATypeBound
  /-- A segment other than the last one has arguments. -/
  | innerArguments (segment : String)
  deriving Repr, DecidableEq

/-- The wording of a fault. For what is no type in code the parser of code has one. -/
def TypeFault.reason? : TypeFault → Option String
  | .malformed => none
  | .notAPath => some "expected a type path such as `Name<Arg>`"
  | .notATypeArgument => some "only type arguments are supported"
  | .functionArguments => some "function-style arguments are not supported"
  | .notATypeBound => some "only type bounds are supported"
  | .innerArguments segment =>
    some ("type arguments are only allowed on the last segment, found them on `" ++ segment ++ "`")

/-- A text that was meant to be a type. -/
structure InvalidType where
  expression : String
  fault : TypeFault
  deriving Repr, DecidableEq

/-- The wording of the error. -/
def InvalidType.message (e : InvalidType) : Message :=
  .because ("invalid type expression '" ++ e.expression ++ "': ") e.fault.reason?
    (.type e.expression)

/-- A text that was meant to be a type parameter. -/
structure InvalidTypeParam where
  expression : String
  fault : TypeFault
  deriving Repr, DecidableEq

/-- The wording of the error. -/
def InvalidTypeParam.message (e : InvalidTypeParam) : Message :=
  .because ("invalid type parameter '" ++ e.expression ++ "': ") e.fault.reason?
    (.parameter e.expression)

namespace TypeRef

/-- Whether a segment has arguments of any form. -/
def segmentHasArguments (s : SegmentSyntax) : Bool :=
  match s.arguments with
  | .none => false
  | _ => true

/-- The reference that a path with these arguments stands for. Primitives and `void` are single
names without arguments, and only count where `allowPrimitive` holds. -/
def ofName (allowPrimitive : Bool) (p : PathSyntax) (args : List TypeRef) : TypeRef :=
  let name := p.name
  if allowPrimitive && args.isEmpty && p.segments.length == 1 && !p.absolute then
    if name = "void" then .void
    else
      match PrimitiveKind.ofName? name with
      | some kind => .primitive kind
      | none => .declared name args
  else .declared name args

mutual

/-- The reference that a written type stands for. -/
def ofSyntax : TypeSyntax → Except TypeFault TypeRef
  | .path p => ofPath true p
  | .unit => .ok .void
  | .paren inner => ofSyntax inner
  | .lone .. => .error .notAPath
  | .other _ => .error .notAPath

/-- The reference that a written path stands for. -/
def ofPath (allowPrimitive : Bool) : PathSyntax → Except TypeFault TypeRef
  | .mk absolute segments =>
    match segments.dropLast.find? segmentHasArguments with
    | some s => .error (.innerArguments s.name)
    | none => (ofLastSegment segments).map (ofName allowPrimitive (.mk absolute segments))

/-- The arguments of the last segment. -/
def ofLastSegment : List SegmentSyntax → Except TypeFault (List TypeRef)
  | [] => .ok []
  | [s] => ofSegment s
  | _ :: rest => ofLastSegment rest

/-- The arguments of a segment. -/
def ofSegment : SegmentSyntax → Except TypeFault (List TypeRef)
  | .mk _ arguments => ofArguments arguments

/-- The types among arguments, which must be the only ones. -/
def ofArguments : ArgumentsSyntax → Except TypeFault (List TypeRef)
  | .none => .ok []
  | .angle _ items => ofItems items
  | .function _ => .error .functionArguments

/-- The types in a list of arguments; the first fault counts. -/
def ofItems : List ArgumentSyntax → Except TypeFault (List TypeRef)
  | [] => .ok []
  | .type t _ :: rest =>
    match ofSyntax t with
    | .error fault => .error fault
    | .ok a => (ofItems rest).map (a :: ·)
  | _ :: _ => .error .notATypeArgument

end

/-- The reference that a text stands for. -/
def parse (s : String) : Except InvalidType TypeRef :=
  match typeSyntax? s with
  | none => .error ⟨s, .malformed⟩
  | some t => (ofSyntax t).mapError (⟨s, ·⟩)

/-- The references that several texts stand for; the first fault counts. -/
def parseAll : List String → Except InvalidType (List TypeRef)
  | [] => .ok []
  | s :: rest =>
    match parse s with
    | .error e => .error e
    | .ok t => (parseAll rest).map (t :: ·)

end TypeRef

namespace TypeParam

/-- The references that bounds stand for. Bounds name declared types even where they look like
primitives. -/
def ofBounds : List BoundSyntax → Except TypeFault (List TypeRef)
  | [] => .ok []
  | .type p _ :: rest =>
    match TypeRef.ofPath false p with
    | .error fault => .error fault
    | .ok t => (ofBounds rest).map (t :: ·)
  | _ :: _ => .error .notATypeBound

/-- The parameter that a text stands for. -/
def parse (s : String) : Except InvalidTypeParam TypeParam :=
  match parameterSyntax? s with
  | none => .error ⟨s, .malformed⟩
  | some (name, bounds) =>
    match ofBounds bounds with
    | .error fault => .error ⟨s, fault⟩
    | .ok bounds => .ok ⟨name, bounds⟩

end TypeParam

end TypedPrefs
