import TypedPrefs.Session.Serializer

/-!
# Serializers that keep what they are given

A serializer keeps values if whatever it serializes it deserializes to the same value. The identity
does, and so does the serializer of an enum persisted by name: its two tables come from one list of
variants, and no two of these go by the same name.
-/

namespace TypedPrefs

/-- What is serialized is deserialized to the same value. -/
def Serializer.RoundTrips {α β : Type} (s : Serializer α β) : Prop :=
  ∀ v t, s.serialize v = .ok t → s.deserialize t = .ok v

theorem Serializer.roundTrips_identity (α : Type) : (Serializer.identity α).RoundTrips := by
  intro v t h
  obtain rfl : v = t := Except.ok.inj h
  rfl

namespace EnumImplementation

/-- Nothing is repeated exactly if the names differ among themselves and from those seen before. -/
theorem repeated_eq_nil_iff {seen names : List String} :
    repeated seen names = [] ↔ names.Nodup ∧ ∀ n ∈ names, n ∉ seen := by
  induction names generalizing seen with
  | nil => simp [repeated]
  | cons n rest ih =>
    rw [repeated]
    split
    · next hseen => simp [hseen]
    · next hnew =>
      rw [ih]
      simp only [List.nodup_cons, List.mem_cons, not_or, forall_eq_or_imp, hnew, not_false_eq_true,
        true_and]
      constructor
      · rintro ⟨hrest, hall⟩
        exact ⟨⟨fun hn => (hall n hn).1 rfl, hrest⟩, fun k hk => (hall k hk).2⟩
      · rintro ⟨⟨hn, hrest⟩, hall⟩
        exact ⟨hrest, fun k hk => ⟨fun heq => hn (heq ▸ hk), hall k hk⟩⟩

/-- Of arms whose names differ the one for a name is found. -/
theorem lookup_of_nodup {arms : List (String × String)} (h : (arms.map Prod.fst).Nodup)
    {name variant : String} (hmem : (name, variant) ∈ arms) :
    arms.lookup name = some variant := by
  obtain ⟨before, after, rfl⟩ := List.append_of_mem hmem
  refine List.lookup_eq_some_iff.mpr ⟨before, after, rfl, fun arm harm => ?_⟩
  rw [List.map_append, List.nodup_append] at h
  have hne := h.2.2 arm.1 (List.mem_map_of_mem harm) name (List.mem_map_of_mem List.mem_cons_self)
  exact bne_iff_ne.mpr hne.symm

theorem mem_of_lookup {arms : List (String × String)} {name variant : String}
    (h : arms.lookup name = some variant) : (name, variant) ∈ arms := by
  obtain ⟨before, after, rfl, -⟩ := List.lookup_eq_some_iff.mp h
  exact List.mem_append_right before List.mem_cons_self

variable {typeName : String} {variants : List EnumVariant} {e : EnumImplementation}

/-- What a derived implementation is made of. -/
theorem derive_eq_ok_iff : derive typeName variants = .ok e ↔
    (variants.map EnumVariant.persistedName).Nodup ∧ e = ofVariants typeName variants := by
  rw [derive]
  split
  · next hnames =>
    have hnodup := (repeated_eq_nil_iff.mp hnames).1
    simp [hnodup, eq_comm]
  · next hnames =>
    have hdup : ¬(variants.map EnumVariant.persistedName).Nodup := fun h =>
      hnames (repeated_eq_nil_iff.mpr ⟨h, by simp⟩)
    simp [hdup]

/-- The name of a variant leads back to it. -/
theorem fromName?_of_name? (h : derive typeName variants = .ok e) {variant name : String}
    (hname : e.name? variant = some name) : e.fromName? name = some variant := by
  obtain ⟨hnodup, rfl⟩ := derive_eq_ok_iff.mp h
  obtain ⟨v, hv, heq⟩ := List.mem_map.mp (mem_of_lookup hname)
  obtain ⟨rfl, rfl⟩ := Prod.mk.inj heq
  refine lookup_of_nodup ?_ (List.mem_map_of_mem hv)
  rw [ofVariants, List.map_map]
  exact hnodup

/-- The serializer of a derived enum keeps its values. -/
theorem roundTrips_serializer (h : derive typeName variants = .ok e) : e.serializer.RoundTrips := by
  rintro (_ | variant) t ht
  · obtain rfl := Except.ok.inj ht
    rfl
  · cases hname : e.name? variant with
    | none => simp [serializer, hname] at ht
    | some name =>
      obtain rfl : some name = t := by simpa [serializer, hname] using ht
      simp [serializer, fromName?_of_name? h hname]

/-- The serializer of a derived enum serializes all its variants. -/
theorem serialize_of_mem (h : derive typeName variants = .ok e) {variant : String}
    (hmem : variant ∈ e.variants) :
    ∃ name, e.serializer.serialize (some variant) = .ok (some name) := by
  obtain ⟨-, rfl⟩ := derive_eq_ok_iff.mp h
  obtain ⟨v, hv, rfl⟩ := List.mem_map.mp hmem
  cases hname : (ofVariants typeName variants).name? v.name with
  | none =>
    have hall := List.lookup_eq_none_iff.mp hname (v.name, v.persistedName) (List.mem_map_of_mem hv)
    simp at hall
  | some name => exact ⟨name, by simp [serializer, hname]⟩

end EnumImplementation

end TypedPrefs
