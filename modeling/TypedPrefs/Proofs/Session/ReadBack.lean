import TypedPrefs.Proofs.Session.Access
import TypedPrefs.Proofs.Session.Serializers
import TypedPrefs.Proofs.Store.Codec

/-!
# Reading what was written

A setter passes its value through the serializer of the preference, through the codec of its kind
and into the store, and the getter goes back the same way. Each stage has its own law, in the
modules on serializers, on codecs and on batches; here they are put in a row.
-/

namespace TypedPrefs.Session

open Blueprint

variable {x : Serializers} {m : Blueprint.Class} {g : Group} {p : Preference} {keys : Keys}
  {n : Nat} {w : World}

/-- What a preference is given comes back: it has no serializer, or one that undoes itself. -/
def KeepsValues (x : Serializers) (p : Preference) : Prop :=
  p.binding.construction = .none ∨ (x p).serializer.RoundTrips

theorem KeepsValues.roundTrips (h : KeepsValues x p) : (exposure x p).serializer.RoundTrips := by
  by_cases hplain : p.binding.construction = .none
  · rw [exposure_of_plain hplain]
    exact Serializer.roundTrips_identity _
  · rw [exposure_of_serializer hplain]
    exact h.resolve_left hplain

namespace Given

theorem get (x : Serializers) (m : Blueprint.Class) (p : Preference) (h : Given g keys n w) :
    Session.perform m w (.group g (.get p)) =
      (shown x p ((w.stores n).read p.binding.kind (keys.of p) (storedDefault p)), w) := by
  rw [h.perform, performIn_get]

/-- With nothing of the right shape at its key a preference has its default. -/
theorem get_of_unfit (x : Serializers) (m : Blueprint.Class) (h : Given g keys n w)
    (hunfit : ∀ stored, (w.stores n).get? (keys.of p) = some stored →
      p.binding.kind.shape? ≠ some stored.shape) :
    Session.perform m w (.group g (.get p)) = (shown x p (storedDefault p), w) := by
  rw [h.get, Store.read_of_unfit hunfit]

end Given

/-- What a setter leaves that got a value for a preference with a key. -/
structure Kept (x : Serializers) (m : Blueprint.Class) (g : Group) (p : Preference) (key : String)
    (n : Nat) (v : Source x p) (w w' : World) : Prop where
  /-- No other key has changed. -/
  others : ∀ other, other ≠ key → (w'.stores n).get? other = (w.stores n).get? other
  /-- Nor has another store. -/
  elsewhere : ∀ k, k ≠ n → w'.stores k = w.stores k
  /-- What stands for the serialized value is at the key, and the getter gives the value back. If
  there is nothing to store, the key is erased, and the getter shows the default. -/
  value : ∃ t, (exposure x p).serializer.serialize v = .ok t ∧
    ((p.binding.kind.IsAbsent t ∧ (w'.stores n).get? key = none ∧
        (perform m w' (.group g (.get p))).1 = shown x p (storedDefault p)) ∨
      ∃ stored, p.binding.kind.Represents stored t ∧ (w'.stores n).get? key = some stored ∧
        (KeepsValues x p → (perform m w' (.group g (.get p))).1 = .value p v))

theorem kept_of_serialized (m : Blueprint.Class) (h : Given g keys n w)
    (hstore : (w.stores n).readOnly = false) {v : Source x p} {t : p.binding.kind.Value}
    (ht : (exposure x p).serializer.serialize v = .ok t) :
    Kept x m g p (keys.of p) n v w (w.commit n [.ofValue p.binding.kind (keys.of p) t]).2 := by
  have hthen := h.commit n [.ofValue p.binding.kind (keys.of p) t]
  have hat := Store.get?_commit_ofValue hstore p.binding.kind (keys.of p) t
  rw [← WorldOf.stores_commit] at hat
  refine ⟨fun other hother => ?_, fun k hk => WorldOf.stores_commit_of_ne w hk _, t, ht, ?_⟩
  · rw [WorldOf.stores_commit]
    refine Store.get?_commit (fun e he => ?_) _
    obtain rfl := List.mem_singleton.mp he
    rw [Edit.key_ofValue]
    exact hother.symm
  · -- the one edit puts or removes, and the codec decides which
    cases hencode : p.binding.kind.encode t with
    | none =>
      rw [hencode] at hat
      refine .inl ⟨StoredKind.encode_eq_none_iff.mp hencode, hat, ?_⟩
      rw [hthen.get_of_unfit x m fun stored hstored => nomatch hat.symm.trans hstored]
    | some stored =>
      rw [hencode] at hat
      have hstands := StoredKind.encode_eq_some_iff.mp hencode
      refine .inr ⟨stored, hstands, hat, fun hkeeps => ?_⟩
      rw [hthen.get x m p, Store.read_of_represents hat hstands, shown, hkeeps.roundTrips v t ht]

/-- **Reading what was written.** A group of a bound class is not given, and then nothing happens,
or each of its preferences has a key. A setter refuses a value that cannot be serialized, without a
change; any other it stores under that key alone, in the shape for its kind, and the getter gives it
back. A getter changes nothing, and a value of another shape is for it as good as none. Without a
serializer values are stored and shown as they are; a serializer is assumed to undo itself, which
those of derived enums do. -/
theorem read_your_write (x : Serializers) (hg : g ∈ m.groups) {b : Bound}
    (hb : w.bound.content = some b) (hstore : (w.stores b.store).readOnly = false)
    (p : Preference) :
    ((∃ e, ∀ operation : GroupOperation x, perform m w (.group g operation) = (.failed e, w)) ∨
      ∃ key, (perform (x := x) m w (.group g (.key p))).1 = .key key ∧
        (∀ v : Source x p,
          (∃ e w', (exposure x p).serializer.serialize v = .error e ∧
            perform m w (.group g (.set ⟨p, v⟩)) = (.refused e, w') ∧ w'.stores = w.stores) ∨
          ∃ w', perform m w (.group g (.set ⟨p, v⟩)) = (.done, w') ∧
            Kept x m g p key b.store v w w') ∧
        (perform (x := x) m w (.group g (.get p))).2.stores = w.stores ∧
        ((∀ stored, (w.stores b.store).get? key = some stored →
            p.binding.kind.shape? ≠ some stored.shape) →
          (perform m w (.group g (.get p))).1 = shown x p (storedDefault p))) ∧
    (∀ (hplain : p.binding.construction = .none) (t : p.binding.kind.Value),
      (exposure x p).serializer.serialize (asSeen hplain t) = .ok t ∧
        shown x p t = .value p (asSeen hplain t)) ∧
    ∀ typeName variants e, EnumImplementation.derive typeName variants = .ok e →
      e.serializer.RoundTrips ∧
      ∀ variant ∈ e.variants, ∃ name, e.serializer.serialize (some variant) = .ok (some name) := by
  refine ⟨?_, fun hplain t => ⟨serialize_asSeen hplain t, shown_of_plain hplain t⟩,
    fun typeName variants e he => ⟨EnumImplementation.roundTrips_serializer he,
      fun variant hmem => EnumImplementation.serialize_of_mem he hmem⟩⟩
  rcases perform_group_cases x hg hb with hfailed | ⟨keys, w₁, hgiven, hstores, hperform⟩
  · exact .inl hfailed
  refine .inr ⟨keys.of p, by rw [hperform]; rfl, fun v => ?_, ?_, fun hunfit => ?_⟩
  · cases ht : (exposure x p).serializer.serialize v with
    | error e =>
      refine .inl ⟨e, w₁, rfl, ?_, hstores⟩
      rw [hperform, performIn, Change.edit, ht]
      rfl
    | ok t =>
      refine .inr ⟨(w₁.commit b.store [.ofValue p.binding.kind (keys.of p) t]).2, ?_, ?_⟩
      · rw [hperform, performIn, Change.edit, ht]
        rfl
      · -- asking for the group may have made it, which no store shows
        have hkept := kept_of_serialized m hgiven (hstores ▸ hstore) ht
        exact ⟨hstores ▸ hkept.others, hstores ▸ hkept.elsewhere, hkept.value⟩
  · rw [hperform, performIn_get]
    exact hstores
  · rw [hperform, performIn_get, Store.read_of_unfit (hstores ▸ hunfit)]

/-- Variants of an enum, one of which is persisted under another name. -/
def themeVariants : List EnumVariant := [⟨"Light", none⟩, ⟨"Dark", some "night"⟩]

/-- That enum. -/
def themes : EnumImplementation := .ofVariants "Theme" themeVariants

/-- A class with a preference for a value of that enum. -/
def themedClass : Declaration :=
  { main :=
      { name := "Main"
        groups := [{ name := "view", preferences := [{ name := "theme", type := "Theme" }] }] }
    types := [{ name := "Theme", kind := .enum }] }

/-- That preference. -/
def themePreference : Preference :=
  { index := 0
    name := "theme"
    method := "theme"
    keyResource := "theme"
    binding :=
      { declared := .named "Theme"
        exposed := .named "Theme"
        persisted := .named "String"
        kind := .string
        construction := .fromToken (.declared "EnumSerializer" [.named "Theme"]) (.named "Theme")
        strategy := .implicitEnum }
    default := .absent
    documentation := none
    accessors := some { getter := "theme", setter := "set_theme", editorSetter := "theme" } }

/-- Its group. -/
def viewGroup : Group :=
  { index := 0, name := "view", accessor := "view", typeName := "View", keyPrefix := ""
    keySuffix := "", preferences := [themePreference] }

/-- The serializer of the enum where strings are stored. -/
def themeSerializers : Serializers := fun p =>
  match p.binding.kind with
  | .string => ⟨Option String, themes.serializer⟩
  | k => .plain k

/-- Over a store with a number at the key of the preference: the getter gives the default, a setter
writes the name of its variant there, and the getter then gives that variant. -/
theorem read_your_write_themes :
    ∃ m ds, build 10 themedClass = (some m, ds) ∧ Diagnostic.anyError ds = false ∧
      let w : World := performAll (x := themeSerializers) m
        (.start (fun _ => { entries := .ofList [("theme", .int 3)] }) fun _ => .identity)
        [.bindTo 0 0]
      (perform m w (.group viewGroup (.get themePreference))).1 =
        .value (x := themeSerializers) themePreference (none : Option String) ∧
      ∃ w', perform (x := themeSerializers) m w
          (.group viewGroup (.set ⟨themePreference, some "Dark"⟩)) = (.done, w') ∧
        (w'.stores 0).get? "theme" = some (.string "night") ∧
        (perform m w' (.group viewGroup (.get themePreference))).1 =
          .value (x := themeSerializers) themePreference (some "Dark") := by
  obtain ⟨m, ds, hbuilt, hds, hgroups⟩ :
      ∃ m ds, build 10 themedClass = (some m, ds) ∧ Diagnostic.anyError ds = false ∧
        m.groups = [viewGroup] :=
    exists_of_outcome (by decide +kernel)
  have hview : viewGroup ∈ m.groups := by simp [hgroups]
  refine ⟨m, ds, hbuilt, hds, ?_⟩
  intro w
  obtain ⟨hoperation, -, henum⟩ := read_your_write themeSerializers hview (w := w)
    (b := ⟨0, 0, fun _ => .empty⟩) rfl rfl themePreference
  have hkeeps : KeepsValues themeSerializers themePreference :=
    .inr (henum "Theme" themeVariants themes rfl).1
  obtain ⟨e, hfailed⟩ | ⟨key, hkey, hset, -, hunfit⟩ := hoperation
  · cases congrArg Prod.fst (hfailed .access)
  obtain rfl : "theme" = key := Answer.key.inj hkey
  refine ⟨hunfit fun stored hstored => ?_, ?_⟩
  · obtain rfl : .int 3 = stored := Option.some.inj hstored
    decide
  obtain ⟨e, w', hrefused, -⟩ | ⟨w', hdone, hkept⟩ := hset (some "Dark")
  · cases hrefused
  obtain ⟨t, ht, ⟨habsent, -⟩ | ⟨stored, hstands, hstored, hget⟩⟩ := hkept.value
  · obtain rfl : some "night" = t := Except.ok.inj ht
    cases habsent
  · obtain rfl : some "night" = t := Except.ok.inj ht
    refine ⟨w', hdone, ?_, hget hkeeps⟩
    rw [hstored]
    cases stored with
    | string name =>
      obtain rfl : "night" = name := Option.some.inj hstands
      rfl
    | _ => cases hstands

end TypedPrefs.Session
