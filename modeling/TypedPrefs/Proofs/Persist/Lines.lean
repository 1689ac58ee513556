import TypedPrefs.Persist.DefaultValue
import TypedPrefs.Proofs.Document.Lines
import TypedPrefs.Proofs.Persist.Resolution
import TypedPrefs.Proofs.Types.Lines

/-!
# Faults of preferences on one line

Why there is no binding for a preference, or its default cannot be used, is told on one line if its
name, the types that are given for it, and the strings in its default are on one line.
-/

namespace TypedPrefs

open Text

/-! ## Bindings -/

namespace BindingFault

/-- The names and the types that a fault tells of have no line feed. -/
def IsUnbroken : BindingFault → Prop
  | .unsupported t => t.IsUnbroken
  | .notDeclared serializer => serializer.IsUnbroken
  | .unknown name => IsOneLine name
  | .bound serializer declared boxed param =>
    serializer.IsUnbroken ∧ declared.IsUnbroken ∧ boxed.IsUnbroken ∧ IsOneLine param.display
  | .unidentified serializer => serializer.IsUnbroken
  | .incompatible serializer declared => serializer.IsUnbroken ∧ declared.IsUnbroken
  | .noConstructor serializer => serializer.IsUnbroken
  | .endless t => t.IsUnbroken

theorem isOneLine_message {f : BindingFault} {preference : String} (hf : f.IsUnbroken)
    (hpreference : IsOneLine preference) : IsOneLine (f.message preference) := by
  unfold message
  cases f with
  | unsupported t =>
    have ht := TypeRef.isOneLine_display hf
    simp +decide [ht]
  | notDeclared serializer =>
    have hserializer := TypeRef.isOneLine_display hf
    simp +decide [hserializer, hpreference]
  | unknown name =>
    have hname : IsOneLine name := hf
    unfold TypeMisfit.message
    simp +decide [hname]
  | bound serializer declared boxed param =>
    obtain ⟨hserializer, hdeclared, hboxed, hparam⟩ := hf
    have hserializer := TypeRef.isOneLine_display hserializer
    have hdeclared := TypeRef.isOneLine_display hdeclared
    have hboxed := TypeRef.isOneLine_display hboxed
    simp +decide [hserializer, hdeclared, hboxed, hparam, hpreference]
  | unidentified serializer =>
    have hserializer := TypeRef.isOneLine_display hf
    simp +decide [hserializer, hpreference]
  | incompatible serializer declared =>
    have hserializer := TypeRef.isOneLine_display hf.1
    have hdeclared := TypeRef.isOneLine_display hf.2
    simp +decide [hserializer, hdeclared, hpreference]
  | noConstructor serializer =>
    have hserializer := TypeRef.isOneLine_display hf
    simp +decide [hserializer]
  | endless t =>
    have ht := TypeRef.isOneLine_display hf
    simp +decide [ht]

end BindingFault

namespace Binding

variable {u : Universe} {depth : Nat} {f : BindingFault}
variable {declared serializer source target : TypeRef} {given : Option TypeRef}

/-- Boxing and completion keep a type unbroken. -/
theorem isKept_isUnbroken (u : Universe) : IsKept u TypeRef.IsUnbroken where
  enumSerializer := by decide
  boxed _ := TypeRef.isUnbroken_boxed
  completed name param t _ hname ht := by
    rw [TypeRef.isUnbroken_declared] at hname ⊢
    exact ⟨hname.1, List.forall_mem_singleton.mpr ht⟩

theorem isUnbroken_fault_of_instantiate (hu : u.IsUnbroken) (hdeclared : declared.IsUnbroken)
    (hserializer : serializer.IsUnbroken)
    (h : instantiate u depth declared serializer = .error f) : f.IsUnbroken := by
  have hboxed := TypeRef.isUnbroken_boxed hdeclared
  unfold instantiate at h
  split at h
  · next name args =>
    split at h
    · cases h
      exact (TypeRef.isUnbroken_declared.mp hserializer).1
    · next d hd =>
      split at h
      · next param hparams =>
        split at h
        · cases h
          exact hboxed
        · cases h
          have hparam : IsOneLine param.display :=
            (hu name d hd).isOneLine_display (by simp [hparams])
          exact ⟨hserializer, hdeclared, hboxed, hparam⟩
        · cases h
      · cases h
  · cases h
    exact hserializer

theorem isUnbroken_fault_of_capability (hserializer : serializer.IsUnbroken)
    (h : capability u depth serializer = .error f) : f.IsUnbroken := by
  unfold capability at h
  split at h
  · cases h
    exact hserializer
  · cases h
    exact hserializer
  · split at h
    · cases h
      exact hserializer
    · cases h

theorem isUnbroken_fault_of_checkCompatible {given : TypeRef} (hdeclared : declared.IsUnbroken)
    (hserializer : serializer.IsUnbroken)
    (h : checkCompatible u depth declared given serializer source = .error f) : f.IsUnbroken := by
  unfold checkCompatible at h
  split at h
  · cases h
  · split at h
    · cases h
      exact TypeRef.isUnbroken_boxed hdeclared
    · cases h
    · cases h
      exact ⟨hserializer, hdeclared⟩

theorem isUnbroken_fault_of_constructionOf (hserializer : serializer.IsUnbroken)
    (h : constructionOf u declared serializer = .error f) : f.IsUnbroken := by
  unfold constructionOf at h
  split at h
  · cases h
  · cases h
  · cases h
    exact hserializer

theorem isUnbroken_of_instantiate (hdeclared : declared.IsUnbroken) {given : TypeRef}
    (hgiven : given.IsUnbroken) (h : instantiate u depth declared given = .ok serializer) :
    serializer.IsUnbroken := by
  rcases instantiate_sound h with ⟨name, param, ⟨rfl, hraw⟩, rfl, -⟩ | ⟨-, rfl⟩
  · have hboxed := TypeRef.isUnbroken_boxed hdeclared
    exact (isKept_isUnbroken u).completed name param _ ⟨rfl, hraw⟩ hgiven hboxed
  · exact hgiven

/-- The stored type of a serializer is unbroken, as the serializer leads to it. -/
theorem isUnbroken_of_capability (hu : u.IsUnbroken) (hserializer : serializer.IsUnbroken)
    (h : capability u depth serializer = .ok (source, target)) : target.IsUnbroken := by
  have hreached := hu.of_reaches hserializer (capability_sound h).1
  obtain ⟨-, hargs⟩ := TypeRef.isUnbroken_declared.mp hreached
  exact hargs target (by simp)

theorem isUnbroken_fault_of_ofSerializer {strategy : Strategy} {given : TypeRef}
    (hu : u.IsUnbroken) (hdeclared : declared.IsUnbroken) (hgiven : given.IsUnbroken)
    (h : ofSerializer u depth strategy declared given = .error f) : f.IsUnbroken := by
  rcases bind_eq_error_iff.mp h with hfault | ⟨serializer, hmade, h⟩
  · exact isUnbroken_fault_of_instantiate hu hdeclared hgiven hfault
  have hserializer := isUnbroken_of_instantiate hdeclared hgiven hmade
  rcases bind_eq_error_iff.mp h with hfault | ⟨⟨source, target⟩, hcapability, h⟩
  · exact isUnbroken_fault_of_capability hserializer hfault
  rcases bind_eq_error_iff.mp h with hfault | ⟨⟨⟩, -, h⟩
  · exact isUnbroken_fault_of_checkCompatible hdeclared hserializer hfault
  rcases bind_eq_error_iff.mp h with hfault | ⟨construction, -, h⟩
  · exact isUnbroken_fault_of_constructionOf hserializer hfault
  split at h
  · cases h
    exact TypeRef.isUnbroken_unboxed (isUnbroken_of_capability hu hserializer hcapability)
  · cases h

/-- Why a preference cannot be bound tells of its own types and what these lead to. -/
theorem isUnbroken_fault_of_resolve (hu : u.IsUnbroken) (hdeclared : declared.IsUnbroken)
    (hgiven : ∀ t, given = some t → t.IsUnbroken) (h : resolve u depth declared given = .error f) :
    f.IsUnbroken := by
  cases given with
  | some given => exact isUnbroken_fault_of_ofSerializer hu hdeclared (hgiven given rfl) h
  | none =>
    rw [resolve] at h
    split at h
    · have henum := (isKept_isUnbroken u).enumSerializer
      exact isUnbroken_fault_of_ofSerializer hu hdeclared henum h
    · unfold ofPlain at h
      split at h
      · cases h
        exact hdeclared
      · cases h

end Binding

/-! ## Defaults -/

open Document Number

namespace DefaultFault

/-- The strings of a default that a fault tells of. -/
def strings : DefaultFault → List String
  | .mismatch _ value => value.strings
  | .notAnInteger _ text => [text]
  | .notAString element => element.strings
  | .outOfRange .. => []
  | .floatOutOfRange _ => []

theorem isOneLine_message {f : DefaultFault} (h : ∀ s ∈ f.strings, IsOneLine s) :
    IsOneLine f.message := by
  have hkind : ∀ kind : StoredKind, IsOneLine kind.name := by
    intro kind
    cases kind <;> decide
  unfold message
  cases f with
  | mismatch kind value =>
    have hvalue := Value.isOneLine_text h
    simp +decide [hkind, hvalue]
  | notAnInteger kind text =>
    have htext : IsOneLine text := h text List.mem_cons_self
    simp +decide [hkind, htext]
  | notAString element =>
    have helement := Value.isOneLine_text h
    simp +decide [helement]
  | outOfRange kind i low high => simp +decide [hkind]
  | floatOutOfRange x => simp +decide [isOneLine_positional]

end DefaultFault

namespace DefaultValue

variable {kind : StoredKind} {f : DefaultFault}

theorem strings_of_ofInteger {i : Int} (h : ofInteger kind i = .error f) : f.strings = [] := by
  unfold ofInteger at h
  split at h
  · split at h
    · cases h
      rfl
    · cases h
  · cases h

theorem strings_of_ofFloating {x : Double} (h : ofFloating kind x = .error f) :
    f.strings = [] := by
  unfold ofFloating at h
  split at h
  · cases h
    rfl
  · cases h

theorem strings_of_ofIntegerText {s : String} (h : ofIntegerText kind s = .error f) :
    f.strings ⊆ [s] := by
  unfold ofIntegerText at h
  split at h
  · simp [strings_of_ofInteger h]
  · cases h
    exact List.Subset.refl _

theorem strings_of_ofStrings {items : List Value} (h : ofStrings items = .error f) :
    f.strings ⊆ Value.stringsAmong items := by
  induction items with
  | nil => cases h
  | cons v rest ih =>
    rw [Value.stringsAmong]
    unfold ofStrings at h
    split at h
    · cases ‹_›
    · next heq =>
      obtain ⟨-, rfl⟩ := List.cons.inj heq
      exact List.subset_append_of_subset_right _ (ih (map_eq_error_iff.mp h))
    · next heq =>
      obtain ⟨rfl, rfl⟩ := List.cons.inj heq
      cases h
      exact List.subset_append_left _ _

/-- Why a value is no default tells of no strings but those in it. -/
theorem strings_of_ofValue {value : Value} (h : ofValue kind value = .error f) :
    f.strings ⊆ value.strings := by
  unfold ofValue at h
  split at h
  · cases h
  · cases h
  · cases h
  · exact strings_of_ofStrings (map_eq_error_iff.mp h)
  · split at h
    · simp [strings_of_ofInteger h]
    · split at h
      · simp [strings_of_ofFloating h]
      · cases h
        exact List.Subset.refl _
  · split at h
    · exact strings_of_ofIntegerText h
    · cases h
      exact List.Subset.refl _
  · split at h
    · simp [strings_of_ofFloating h]
    · cases h
      exact List.Subset.refl _
  · cases h
    exact List.Subset.refl _

/-- Why a default cannot be used is told on one line if the strings in it are on one line. -/
theorem isOneLine_of_resolve {value : Option Value}
    (hvalue : ∀ v ∈ value, ∀ s ∈ v.strings, IsOneLine s) (h : resolve kind value = .error f) :
    IsOneLine f.message := by
  cases value with
  | none => cases h
  | some v =>
    exact DefaultFault.isOneLine_message fun s hs => hvalue v rfl s (strings_of_ofValue h hs)

end DefaultValue

end TypedPrefs
