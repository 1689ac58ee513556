import Mathlib.Data.List.Nodup
import TypedPrefs.Enums.Definition
import TypedPrefs.Proofs.Code.StringLiterals
import TypedPrefs.Proofs.Session.Serializers

/-!
# Derived enums

An item that lists variants without fields is derived unless two of them go by the same name. What
is derived is faithful: its tables undo each other, and its serializer knows the names of the
variants and no other ones. Of the tables the second one needs persisted names that differ, the
first one variants that differ; a rename may be the name of another variant.
-/

namespace TypedPrefs.Enums

open Code Grammar

/-! ## Items that list variants -/

/-- The item is an enum without fields whose variants and renames are those of `vs`. Its attributes
are in order and may set whatever else they like. -/
structure Declares (r : Nested) (item : DataItem) (vs : List EnumVariant) : Prop where
  shape : shapeFaults item = []
  attributes : (settings r enumKeys item.attributes).2 = []
  variants : (variantsOf item).map (variantOf r) = vs.map fun v => (v, [])

/-- The attribute that asks for a name. -/
def renameAttribute (name : String) : MetaSyntax :=
  .list (.mk false [.mk "preference" .none]) .paren
    [.word "rename", .mark '=' false, .literal (Text.literal name)]

/-- A variant as it is written. -/
def written (v : EnumVariant) : VariantSyntax :=
  ⟨(v.rename.map renameAttribute).toList, v.name, [], []⟩

/-- An item that lists variants. -/
def listing (name : String) (vs : List EnumVariant) : DataItem :=
  ⟨[], [], name, [], [], .enum (vs.map fun v => (written v, true))⟩

theorem settings_renameAttribute (r : Nested) (name : String) :
    settings r variantKeys [renameAttribute name] = ([.rename name], []) := by
  have hown : (PathSyntax.mk false [.mk "preference" .none]).name = "preference" := by decide
  have hlisted : listedIn r (renameAttribute name) = [.ok (.value (.mk false [.mk "rename" .none])
      ⟨.literal, [.literal (Text.literal name)], false⟩)] := rfl
  have hkey : (PathSyntax.mk false [.mk "rename" .none]).name = "rename" := by decide
  have hvalue : Literal.stringValue? (Text.literal name) = some name := by
    simp [Literal.stringValue?, Literal.string?_literal]
  have hfilter : [renameAttribute name].filter (fun a => a.name.name = "preference") =
      [renameAttribute name] := List.filter_cons_of_pos (decide_eq_true hown)
  rw [settings, hfilter, List.flatMap_singleton, hlisted]
  simp [collect, MetaSyntax.name, hkey, variantKeys, textValue?, literalValue?, hvalue]

theorem variantOf_written (r : Nested) (v : EnumVariant) : variantOf r (written v) = (v, []) := by
  obtain ⟨name, rename⟩ := v
  cases rename with
  | none => simp [written, variantOf, settings, collect]
  | some n => simp [written, variantOf, settings_renameAttribute]

/-- Any variants can be listed. -/
theorem declares_listing (r : Nested) (name : String) (vs : List EnumVariant) :
    Declares r (listing name vs) vs where
  shape := by simp [shapeFaults, listing, written, VariantSyntax.isUnit]
  attributes := by simp [settings, listing, collect]
  variants := by simp [variantsOf, listing, variantOf_written]

/-! ## What is derived -/

/-- The implementation is faithful to the variants: its tables undo each other on them, and its
serializer keeps them and knows no name but theirs. -/
structure IsFaithful (vs : List EnumVariant) (e : EnumImplementation) : Prop where
  variants : e.variants = vs.map EnumVariant.name
  name : ∀ v ∈ vs, e.name? v.name = some v.persistedName
  fromName : ∀ v ∈ vs, e.fromName? v.persistedName = some v.name
  name_of_fromName : ∀ name variant,
    e.fromName? name = some variant → e.name? variant = some name
  roundTrip : ∀ x : Option String, (∀ variant ∈ x, variant ∈ e.variants) →
    ∃ t, e.serializer.serialize x = .ok t ∧ e.serializer.deserialize t = .ok x
  unknown_iff : ∀ name, (∃ fault, e.serializer.deserialize (some name) = .error fault) ↔
    ∀ v ∈ vs, v.persistedName ≠ name

section Definitions

variable {r : Nested} {item : DataItem} {vs : List EnumVariant}

/-- Of an item that lists variants only the names are still to be looked at. -/
theorem Declares.ofItem_eq (h : Declares r item vs) : ∃ typeName runtime,
    Definition.ofItem r item =
      match EnumImplementation.derive typeName vs with
      | .error names => .error (names.map .duplicateName)
      | .ok e => .ok ⟨item.name, item.parameters, item.conditions, runtime, e⟩ := by
  have hfaults : ((variantsOf item).map (variantOf r)).flatMap Prod.snd = [] := by
    simp [h.variants, List.flatMap_map]
  have hnames : ((variantsOf item).map (variantOf r)).map Prod.fst = vs := by
    simp [h.variants, Function.comp_def]
  rw [Definition.ofItem]
  simp only [h.attributes, h.shape, hfaults, hnames, List.append_nil]
  exact ⟨_, _, rfl⟩

theorem lookup_persisted {typeName : String} (h : (vs.map EnumVariant.persistedName).Nodup)
    {v : EnumVariant} (hv : v ∈ vs) :
    (EnumImplementation.ofVariants typeName vs).fromName? v.persistedName = some v.name := by
  refine EnumImplementation.lookup_of_nodup ?_ (List.mem_map_of_mem hv)
  rw [EnumImplementation.ofVariants, List.map_map]
  exact h

theorem lookup_name {typeName : String} (h : (vs.map EnumVariant.name).Nodup)
    {v : EnumVariant} (hv : v ∈ vs) :
    (EnumImplementation.ofVariants typeName vs).name? v.name = some v.persistedName := by
  refine EnumImplementation.lookup_of_nodup ?_ (List.mem_map_of_mem hv)
  rw [EnumImplementation.ofVariants, List.map_map]
  exact h

/-- A name is unknown if no variant goes by it. -/
theorem deserialize_eq_error_iff {typeName name : String} :
    (∃ fault, (EnumImplementation.ofVariants typeName vs).serializer.deserialize (some name) =
        .error fault) ↔ ∀ v ∈ vs, v.persistedName ≠ name := by
  have hnone : (EnumImplementation.ofVariants typeName vs).fromName? name = none ↔
      ∀ v ∈ vs, v.persistedName ≠ name := by
    rw [EnumImplementation.fromName?, List.lookup_eq_none_iff, EnumImplementation.ofVariants,
      List.forall_mem_map]
    simp only [bne_iff_ne, ne_comm]
  rw [← hnone]
  cases hfound : (EnumImplementation.ofVariants typeName vs).fromName? name <;>
    simp [EnumImplementation.serializer, hfound]

theorem isFaithful_of_derive {typeName : String} {e : EnumImplementation}
    (hnames : (vs.map EnumVariant.name).Nodup)
    (h : EnumImplementation.derive typeName vs = .ok e) : IsFaithful vs e := by
  obtain ⟨hpersisted, rfl⟩ := EnumImplementation.derive_eq_ok_iff.mp h
  constructor
  case variants => rfl
  case name => exact fun v hv => lookup_name hnames hv
  case fromName => exact fun v hv => lookup_persisted hpersisted hv
  case name_of_fromName =>
    intro name variant hfound
    obtain ⟨v, hv, heq⟩ := List.mem_map.mp (EnumImplementation.mem_of_lookup hfound)
    obtain ⟨rfl, rfl⟩ := Prod.mk.inj heq
    exact lookup_name hnames hv
  case roundTrip =>
    intro x hx
    have hsome :
        ∃ t, (EnumImplementation.ofVariants typeName vs).serializer.serialize x = .ok t := by
      cases x with
      | none => exact ⟨none, rfl⟩
      | some variant =>
        obtain ⟨name, hname⟩ := EnumImplementation.serialize_of_mem h (hx variant rfl)
        exact ⟨some name, hname⟩
    obtain ⟨t, ht⟩ := hsome
    exact ⟨t, ht, EnumImplementation.roundTrips_serializer h x t ht⟩
  case unknown_iff => exact fun name => deserialize_eq_error_iff

/-- **Derived enums are persisted faithfully.** An item that lists variants is refused exactly if
two of them go by the same name, and otherwise its implementation is faithful to them. -/
theorem derivation_faithful (h : Declares r item vs) (hnames : (vs.map EnumVariant.name).Nodup) :
    ((∃ faults, Definition.ofItem r item = .error faults) ↔
        ∃ v ∈ vs, ∃ w ∈ vs, v ≠ w ∧ v.persistedName = w.persistedName) ∧
      ∀ d, Definition.ofItem r item = .ok d → IsFaithful vs d.implementation := by
  obtain ⟨typeName, runtime, heq⟩ := h.ofItem_eq
  have hdistinct : (vs.map EnumVariant.persistedName).Nodup ↔
      ¬∃ v ∈ vs, ∃ w ∈ vs, v ≠ w ∧ v.persistedName = w.persistedName := by
    rw [List.nodup_map_iff_inj_on (List.Nodup.of_map _ hnames)]
    grind
  rw [heq]
  cases hderive : EnumImplementation.derive typeName vs with
  | error names =>
    have hrepeated : ¬(vs.map EnumVariant.persistedName).Nodup := fun hnodup => by
      rw [EnumImplementation.derive_eq_ok_iff.mpr ⟨hnodup, rfl⟩] at hderive
      cases hderive
    exact ⟨iff_of_true ⟨_, rfl⟩ (by rwa [hdistinct, not_not] at hrepeated), nofun⟩
  | ok e =>
    have hnodup := (EnumImplementation.derive_eq_ok_iff.mp hderive).1
    refine ⟨iff_of_false nofun (hdistinct.mp hnodup), ?_⟩
    rintro _ ⟨⟩
    exact isFaithful_of_derive hnames hderive

/-- Two variants that swap their names. -/
theorem derivation_faithful_swapped :
    let vs : List EnumVariant := [⟨"A", some "B"⟩, ⟨"B", some "A"⟩]
    (vs.map EnumVariant.name).Nodup ∧
      ∀ r, Declares r (listing "Swapped" vs) vs ∧
        (¬∃ faults, Definition.ofItem r (listing "Swapped" vs) = .error faults) ∧
        ∀ d, Definition.ofItem r (listing "Swapped" vs) = .ok d →
          IsFaithful vs d.implementation := by
  intro vs
  have hnames : (vs.map EnumVariant.name).Nodup := by decide
  refine ⟨hnames, fun r => ?_⟩
  obtain ⟨hrefused, hfaithful⟩ :=
    derivation_faithful (declares_listing r "Swapped" vs) hnames
  exact ⟨declares_listing r "Swapped" vs, hrefused.not.mpr (by decide), hfaithful⟩

end Definitions

end TypedPrefs.Enums
