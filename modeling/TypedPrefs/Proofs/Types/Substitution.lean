import TypedPrefs.Proofs.Types.Flow

/-!
# Replacing variables

A replacement gives every variable a type and acts on all variables of a reference at once. Two
replacements after one another are a single one, and only the variables that occur count. Arguments
in place of parameters are a replacement, too. So a replacement after it can go to the arguments
instead, if the reference has no variables but the parameters and each of these has an argument.
What is put in is not looked at again, so no name in an argument is taken for a parameter.
-/

namespace TypedPrefs

namespace TypeRef

variable {σ τ : String → TypeRef} {params : List String} {args : List TypeRef}

/-! ## Replacements -/

mutual

/-- Each variable becomes the type that it is given. -/
def replace (σ : String → TypeRef) : TypeRef → TypeRef
  | .variable x => σ x
  | .declared name args => .declared name (replaceList σ args)
  | .primitive kind => .primitive kind
  | .void => .void

/-- `replace` on each reference of a list. -/
def replaceList (σ : String → TypeRef) : List TypeRef → List TypeRef
  | [] => []
  | t :: ts => replace σ t :: replaceList σ ts

end

theorem replaceList_eq_map (σ : String → TypeRef) (ts : List TypeRef) :
    replaceList σ ts = ts.map (replace σ) := by
  induction ts with
  | nil => rfl
  | cons t ts ih => simp [replaceList, ih]

@[simp] theorem replace_declared (σ : String → TypeRef) (name : String) (args : List TypeRef) :
    (declared name args).replace σ = .declared name (args.map (replace σ)) := by
  rw [replace, replaceList_eq_map]

/-- Two replacements after one another replace each variable by the image of what it becomes. -/
theorem replace_replace (σ τ : String → TypeRef) (t : TypeRef) :
    (t.replace σ).replace τ = t.replace fun x => (σ x).replace τ := by
  induction t with
  | primitive kind => rfl
  | void => rfl
  | parameter x => rfl
  | declared name args ih =>
    simp only [replace_declared, List.map_map]
    congr 1
    exact List.map_congr_left ih

/-- Replacements that agree on the variables that occur have the same image. -/
theorem replace_congr {t : TypeRef} (h : ∀ x, .variable x ∈ t.parts → σ x = τ x) :
    t.replace σ = t.replace τ := by
  induction t with
  | primitive kind => rfl
  | void => rfl
  | parameter x => exact h x (self_mem_parts _)
  | declared name args ih =>
    simp only [replace_declared]
    congr 1
    refine List.map_congr_left fun a ha => ih a ha fun x hx => h x ?_
    exact mem_parts_trans hx (mem_parts_of_mem_args ha)

/-- The type that a list of bindings gives to a variable; an unbound one stays. -/
def boundTo (bindings : List (String × TypeRef)) (x : String) : TypeRef :=
  (bindings.lookup x).getD (.variable x)

theorem instantiate_eq_replace (bindings : List (String × TypeRef)) (t : TypeRef) :
    t.instantiate bindings = t.replace (boundTo bindings) := by
  induction t with
  | primitive kind => rfl
  | void => rfl
  | parameter x => rfl
  | declared name args ih =>
    rw [instantiate_declared, replace_declared]
    congr 1
    exact List.map_congr_left ih

theorem substitute_eq_replace (params : List String) (args : List TypeRef) (t : TypeRef) :
    t.substitute params args = t.replace (boundTo (params.zip args)) :=
  instantiate_eq_replace _ t

/-! ## The variables that occur -/

/-- No other variables occur than these. -/
def IsOver (params : List String) (t : TypeRef) : Prop := ∀ x, .variable x ∈ t.parts → x ∈ params

@[simp] theorem isOver_primitive (kind : PrimitiveKind) : (primitive kind).IsOver params := by
  intro x hx
  simp [parts] at hx

@[simp] theorem isOver_void : void.IsOver params := by
  intro x hx
  simp [parts] at hx

@[simp] theorem isOver_variable {x : String} : (TypeRef.variable x).IsOver params ↔ x ∈ params := by
  simp [IsOver, parts]

@[simp] theorem isOver_declared {name : String} :
    (declared name args).IsOver params ↔ ∀ a ∈ args, a.IsOver params := by
  constructor
  · intro h a ha x hx
    exact h x (mem_parts_trans hx (mem_parts_of_mem_args ha))
  · intro h x hx
    rcases List.mem_cons.mp (parts_eq _ ▸ hx) with heq | hx
    · cases heq
    · obtain ⟨a, ha, hx⟩ := mem_innerParts_declared.mp hx
      exact h a ha x hx

/-- Where no variables are, those that bare references become are the only ones. -/
theorem isOver_withVariables {t : TypeRef} (h : t.IsOver []) :
    (t.withVariables params).IsOver params := by
  induction t with
  | primitive kind => exact isOver_primitive kind
  | void => exact isOver_void
  | parameter x => exact absurd (isOver_variable.mp h) List.not_mem_nil
  | declared name args ih =>
    rw [withVariables]
    split
    · next hbare =>
      simp only [Bool.and_eq_true, List.contains_eq_mem, decide_eq_true_eq] at hbare
      exact isOver_variable.mpr hbare.2
    · rw [withVariablesList_eq_map, isOver_declared]
      intro a ha
      obtain ⟨b, hb, rfl⟩ := List.mem_map.mp ha
      exact ih b hb (isOver_declared.mp h b hb)

/-! ## Replacements after substitution -/

/-- A parameter with an argument becomes it, and then its image. -/
theorem replace_boundTo (σ : String → TypeRef) (hlength : args.length = params.length) {x : String}
    (hx : x ∈ params) :
    (boundTo (params.zip args) x).replace σ = boundTo (params.zip (args.map (replace σ))) x := by
  obtain ⟨i, hi⟩ : ∃ i, params.idxOf? x = some i :=
    Option.isSome_iff_exists.mp (List.isSome_idxOf?.mpr hx)
  have hlt : i < args.length := by
    obtain ⟨hlt, -⟩ := List.idxOf?_eq_some_iff.mp hi
    omega
  simp [boundTo, lookup_zip, hi, List.getElem?_eq_getElem hlt]

/-- A replacement after a substitution can go to the arguments instead. -/
theorem replace_substitute (σ : String → TypeRef) {t : TypeRef} (ht : t.IsOver params)
    (hlength : args.length = params.length) :
    (t.substitute params args).replace σ = t.substitute params (args.map (replace σ)) := by
  rw [substitute_eq_replace, substitute_eq_replace, replace_replace]
  exact replace_congr fun x hx => replace_boundTo σ hlength (ht x hx)

theorem boundTo_variables (params : List String) (x : String) :
    boundTo (params.zip (params.map .variable)) x = .variable x := by
  rw [boundTo, lookup_zip]
  cases hi : params.idxOf? x with
  | none => rfl
  | some i =>
    obtain ⟨hlt, hx, -⟩ := List.idxOf?_eq_some_iff.mp hi
    simp [List.getElem?_eq_getElem hlt, hx]

/-- Parameters in their own places change nothing. -/
theorem substitute_variables (params : List String) (t : TypeRef) :
    t.substitute params (params.map .variable) = t := by
  rw [substitute_eq_replace]
  induction t with
  | primitive kind => rfl
  | void => rfl
  | parameter x => exact boundTo_variables params x
  | declared name args ih =>
    rw [replace_declared, List.map_congr_left ih, List.map_id']

end TypeRef

/-! ## Supertypes of declarations -/

namespace TypeDecl

variable {d : TypeDecl}

/-- The supertypes are written with the parameters as their only variables. -/
def IsClosed (d : TypeDecl) : Prop := ∀ t ∈ d.supertypes, t.IsOver d.paramNames

theorem isOver_selfType (d : TypeDecl) : d.selfType.IsOver d.paramNames := by
  rw [selfType, TypeRef.isOver_declared]
  intro a ha
  obtain ⟨x, hx, rfl⟩ := List.mem_map.mp ha
  exact TypeRef.isOver_variable.mpr hx

/-- The supertype that an enum has without saying so is written with its parameters, too. -/
theorem IsClosed.isOver_of_mem {t : TypeRef} (h : d.IsClosed) (ht : t ∈ d.allSupertypes) :
    t.IsOver d.paramNames := by
  rw [allSupertypes] at ht
  split at ht
  · rcases List.mem_append.mp ht with ht | ht
    · exact h t ht
    · obtain rfl := List.mem_singleton.mp ht
      simp [isOver_selfType]
  · exact h t ht

end TypeDecl

namespace Universe

variable {u : Universe} {d : TypeDecl} {name : String} {args : List TypeRef}

theorem directSupertypes_declared (hd : u.get? name = some d) (args : List TypeRef) :
    u.directSupertypes (.declared name args) =
      d.allSupertypes.map (TypeRef.substitute d.paramNames args) := by
  rw [directSupertypes, hd]

/-- With all arguments replaced, so are the direct supertypes. -/
theorem directSupertypes_replace (σ : String → TypeRef) (hd : u.get? name = some d)
    (hclosed : d.IsClosed) (hlength : args.length = d.params.length) :
    u.directSupertypes (.declared name (args.map (TypeRef.replace σ))) =
      (u.directSupertypes (.declared name args)).map (TypeRef.replace σ) := by
  have hlength : args.length = d.paramNames.length := by simpa [TypeDecl.paramNames] using hlength
  rw [directSupertypes_declared hd, directSupertypes_declared hd, List.map_map]
  refine List.map_congr_left fun t ht => ?_
  exact (TypeRef.replace_substitute σ (hclosed.isOver_of_mem ht) hlength).symm

/-- The direct supertypes are those of the type with its own parameters as arguments, with the
arguments in place of the parameters. -/
theorem directSupertypes_selfType (hd : u.get? d.name = some d) (args : List TypeRef) :
    u.directSupertypes (.declared d.name args) =
      (u.directSupertypes d.selfType).map (TypeRef.substitute d.paramNames args) := by
  have hself : u.directSupertypes d.selfType = d.allSupertypes := by
    rw [TypeDecl.selfType, directSupertypes_declared hd,
      List.map_congr_left fun t _ => TypeRef.substitute_variables d.paramNames t, List.map_id']
  rw [hself, directSupertypes_declared hd]

end Universe

end TypedPrefs
