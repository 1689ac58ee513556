import TypedPrefs.Blueprint.Class
import TypedPrefs.Session.Cell
import TypedPrefs.Session.Resources
import TypedPrefs.Session.Serializer
import TypedPrefs.Store.Basic
import TypedPrefs.Store.Default

/-!
# A class in use

What the functions of a generated class do. A class is bound once to a store and to string
resources. A group is made when it is first asked for, and looks up the keys of its preferences
then. Getters and setters go through the serializer of their preference; an editor collects edits
and makes them in one batch.

Stores and resources exist outside of the class and are known by numbers: more than one can be
offered to a class, and what it does with which of them is part of its behaviour. They can be of any
type that does what a class asks of them.

The tokens of `Generated` are not run here, and no theorem says what they do. Each definition says
again what one of those templates says:

* `bindTo` and `isInitialized` say what `initializeFunction` and the function beside it say,
  `underlyingStore` what `storeFunction` says;
* `group` is `groupAccessor`, with `resolveKeys` for `groupConstructor` and its `keyInit`s, and
  `Keys.of` for `keyMethod`;
* `removals` and `clear` are `groupRemovals` and `clearFunction`;
* `read` is `getter`, `Change.edit` in a batch of its own is `setter`, and `edits` with `finish` is
  `editorItems`: both setters write the edit of `editOf`, which is `Edit.ofValue`.
-/

namespace TypedPrefs.Session

open Blueprint

/-- The keys of a group by the methods that give them. -/
abbrev Keys := List (String × String)

/-- The key of a preference. A preference of another group has none. -/
def Keys.of (keys : Keys) (p : Preference) : String := (keys.lookup p.method).getD ""

/-- What a class is bound to, and its groups by their accessors. -/
structure Bound where
  store : Nat
  resources : Nat
  groups : String → GroupCell Keys

/-- A class together with all stores and resources. -/
structure WorldOf (S R : Type) where
  stores : Nat → S
  resources : Nat → R
  bound : PreferencesCell Bound

/-- A class with stores and resources in memory. -/
abbrev World := WorldOf Store Resources

variable {S R : Type}

namespace WorldOf

/-- A world in which nothing is bound yet. -/
def start (stores : Nat → S) (resources : Nat → R) : WorldOf S R :=
  ⟨stores, resources, .empty⟩

/-- The world with another store in the place of one. -/
def setStore (w : WorldOf S R) (n : Nat) (s : S) : WorldOf S R :=
  { w with stores := fun m => if m = n then s else w.stores m }

/-- The world with other resources in the place of some. -/
def setResources (w : WorldOf S R) (n : Nat) (r : R) : WorldOf S R :=
  { w with resources := fun m => if m = n then r else w.resources m }

/-- The world after a batch of edits of a store, and whether they were made. -/
def commit [KeyValueStore S] (w : WorldOf S R) (n : Nat) (edits : List Edit) : Bool × WorldOf S R :=
  let (made, s) := KeyValueStore.commit (w.stores n) edits
  (made, w.setStore n s)

end WorldOf

/-- How values of preferences are seen, by preference. It counts only where there is a
serializer. -/
abbrev Serializers := (p : Preference) → Exposure p.binding.kind

/-- How the values of a preference are seen: as they are stored, or through its serializer. -/
def exposure (x : Serializers) (p : Preference) : Exposure p.binding.kind :=
  match p.binding.construction with
  | .none => .plain p.binding.kind
  | _ => x p

/-- A value of a preference as it is seen. -/
abbrev Source (x : Serializers) (p : Preference) : Type := (exposure x p).Source

/-- The default of a preference as it is stored. -/
def storedDefault (p : Preference) : p.binding.kind.Value := p.default.valueAs p.binding.kind

/-! ## Binding -/

/-- Whether the class is bound. -/
def isInitialized (w : WorldOf S R) : Bool := w.bound.isInitialized

/-- Binds the class to a store and to resources. -/
def bindTo (store resources : Nat) (w : WorldOf S R) : Except PrefError Unit × WorldOf S R :=
  let (result, bound) := w.bound.fill ⟨store, resources, fun _ => .empty⟩
  (result, { w with bound })

/-- The store that the class is bound to. -/
def underlyingStore (w : WorldOf S R) : Except PrefError Nat := w.bound.get.map Bound.store

variable [KeyValueStore S] [ResourceStrings R]

/-! ## Groups -/

/-- Looks up the keys of preferences in their order. -/
def resolveKeys (r : R) : List Preference → Except PrefError Keys
  | [] => .ok []
  | p :: rest =>
    match ResourceStrings.getString r p.keyResource with
    | .error e => .error e
    | .ok key => (resolveKeys r rest).map ((p.method, key) :: ·)

/-- The cells of groups with another cell for one accessor. -/
def setGroup (groups : String → GroupCell Keys) (accessor : String) (cell : GroupCell Keys) :
    String → GroupCell Keys :=
  fun other => if other = accessor then cell else groups other

/-- The keys of a group, which is made if it was not before. -/
def group (g : Group) (w : WorldOf S R) : Except PrefError Keys × WorldOf S R :=
  match w.bound.get with
  | .error e => (.error e, w)
  | .ok b =>
    let made := resolveKeys (w.resources b.resources) g.preferences
    let (result, cell) := (b.groups g.accessor).getOrTryInit made
    (result, { w with bound := ⟨some { b with groups := setGroup b.groups g.accessor cell }⟩ })

/-! ## Values -/

/-- The value of a preference in a store. -/
def read (x : Serializers) (keys : Keys) (s : S) (p : Preference) :
    Except SerializationError (Source x p) :=
  (exposure x p).serializer.deserialize
    (KeyValueStore.read s p.binding.kind (keys.of p) (storedDefault p))

/-- A value for a preference. -/
structure Change (x : Serializers) where
  preference : Preference
  value : Source x preference

/-- The edit that makes a change. -/
def Change.edit {x : Serializers} (keys : Keys) (c : Change x) : Except SerializationError Edit :=
  ((exposure x c.preference).serializer.serialize c.value).map
    (Edit.ofValue c.preference.binding.kind (keys.of c.preference))

/-- The edits that an editor collects for changes in a row. The first one that fails ends it. -/
def edits {x : Serializers} (keys : Keys) : List (Change x) → Except SerializationError (List Edit)
  | [] => .ok []
  | c :: rest =>
    match c.edit keys with
    | .error e => .error e
    | .ok edit => (edits keys rest).map (edit :: ·)

/-! ## Clearing -/

/-- The edits that remove the values of all preferences of groups. All groups are made for that. -/
def removals : List Group → WorldOf S R → Except PrefError (List Edit) × WorldOf S R
  | [], w => (.ok [], w)
  | g :: rest, w =>
    if g.preferences.isEmpty then removals rest w
    else
      match group g w with
      | (.error e, w) => (.error e, w)
      | (.ok keys, w) =>
        let (result, w) := removals rest w
        (result.map (g.preferences.map (fun p => Edit.remove (keys.of p)) ++ ·), w)

/-- Removes the values of all preferences of a class in one batch. -/
def clear (m : Blueprint.Class) (w : WorldOf S R) : Except PrefError Unit × WorldOf S R :=
  match w.bound.get with
  | .error e => (.error e, w)
  | .ok b =>
    match removals m.groups w with
    | (.error e, w) => (.error e, w)
    | (.ok edits, w) => (.ok (), (w.commit b.store edits).2)

/-! ## Operations -/

/-- How an editor ends: its edits are made and the outcome is told or not, or they are lost. -/
inductive Ending where
  | commit | apply | drop
  deriving Repr, DecidableEq

/-- What can be done with a group. -/
inductive GroupOperation (x : Serializers) where
  /-- Nothing but asking for it. -/
  | access
  | key (p : Preference)
  | get (p : Preference)
  | set (change : Change x)
  | edit (changes : List (Change x)) (ending : Ending)

/-- What can be done with a class. -/
inductive Operation (x : Serializers) where
  | isInitialized
  | bindTo (store resources : Nat)
  | clear
  | underlyingStore
  | group (g : Group) (operation : GroupOperation x)

/-- What an operation answers. -/
inductive Answer (x : Serializers) where
  | done
  | truth (b : Bool)
  | store (n : Nat)
  | key (key : String)
  | value (p : Preference) (value : Source x p)
  | dropped
  | failed (e : PrefError)
  | refused (e : SerializationError)

variable {x : Serializers}

/-- Ends an editor of a store. -/
def finish (store : Nat) (edits : List Edit) (ending : Ending) (w : WorldOf S R) :
    Answer x × WorldOf S R :=
  match ending with
  | .commit =>
    let (made, w) := w.commit store edits
    (.truth made, w)
  | .apply => (.done, (w.commit store edits).2)
  | .drop => (.dropped, w)

/-- What an operation does with a group whose keys are known. -/
def performIn (keys : Keys) (store : Nat) (w : WorldOf S R) :
    GroupOperation x → Answer x × WorldOf S R
  | .access => (.done, w)
  | .key p => (.key (keys.of p), w)
  | .get p =>
    match read x keys (w.stores store) p with
    | .ok v => (.value p v, w)
    | .error e => (.refused e, w)
  | .set change =>
    match change.edit keys with
    | .ok edit => (.done, (w.commit store [edit]).2)
    | .error e => (.refused e, w)
  | .edit changes ending =>
    match edits keys changes with
    | .ok edits => finish store edits ending w
    | .error e => (.refused e, w)

/-- What an operation that may fail and answers nothing else answers. -/
def Answer.ofUnit : Except PrefError Unit → Answer x
  | .ok () => .done
  | .error e => .failed e

/-- What an operation of a class does. -/
def perform (m : Blueprint.Class) (w : WorldOf S R) : Operation x → Answer x × WorldOf S R
  | .isInitialized => (.truth (isInitialized w), w)
  | .bindTo store resources =>
    let (result, w) := bindTo store resources w
    (.ofUnit result, w)
  | .clear =>
    let (result, w) := clear m w
    (.ofUnit result, w)
  | .underlyingStore =>
    match underlyingStore w with
    | .ok n => (.store n, w)
    | .error e => (.failed e, w)
  | .group g operation =>
    match group g w with
    | (.error e, w) => (.failed e, w)
    | (.ok keys, w) =>
      match underlyingStore w with
      | .ok store => performIn keys store w operation
      | .error e => (.failed e, w)

/-- The world after operations in a row. -/
def performAll (m : Blueprint.Class) (w : WorldOf S R) (operations : List (Operation x)) :
    WorldOf S R :=
  operations.foldl (fun w operation => (perform m w operation).2) w

end TypedPrefs.Session
